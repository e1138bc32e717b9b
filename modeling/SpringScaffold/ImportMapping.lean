import SpringScaffold.Dictionary
import SpringScaffold.ImportSet

/-! Which class an import identifier stands for. -/

namespace SpringScaffold

namespace ImportId

def dateTimeFormat : String := "DateTimeFormat"
def jsonProperty : String := "JsonProperty"
def jsonValue : String := "JsonValue"
def jsonCreator : String := "JsonCreator"
def arrays : String := "Arrays"
def apiIgnore : String := "ApiIgnore"

end ImportId

/-- From import identifiers to qualified class names. -/
structure ImportMapping where
  names : Dictionary String
  deriving DecidableEq, Repr

namespace ImportMapping

def defaults : List (String × String) := [
  (ImportId.dateTimeFormat, "org.springframework.format.annotation.DateTimeFormat"),
  (ImportId.apiIgnore, "springfox.documentation.annotations.ApiIgnore"),
  (ImportId.jsonProperty, "com.fasterxml.jackson.annotation.JsonProperty"),
  (ImportId.jsonValue, "com.fasterxml.jackson.annotation.JsonValue"),
  (ImportId.jsonCreator, "com.fasterxml.jackson.annotation.JsonCreator"),
  (ImportId.arrays, "java.util.Arrays"),
  ("List", "java.util.List"),
  ("Map", "java.util.Map"),
  ("Set", "java.util.Set"),
  ("UUID", "java.util.UUID"),
  ("BigDecimal", "java.math.BigDecimal"),
  ("LocalDate", "java.time.LocalDate"),
  ("OffsetDateTime", "java.time.OffsetDateTime"),
  ("MultipartFile", "org.springframework.web.multipart.MultipartFile")]

/-- The default names, with further ones on top that win. -/
def withOverrides (overrides : List (String × String)) : ImportMapping :=
  ⟨Dictionary.ofList (defaults ++ overrides)⟩

def resolve (m : ImportMapping) (id : String) : Option String := m.names.find? id

/-- The qualified names of the identifiers that have one, in their order. -/
def qualify (m : ImportMapping) (s : ImportSet) : List String := s.ids.filterMap m.resolve

/-- The identifiers that `qualify` leaves out. -/
def unmapped (m : ImportMapping) (s : ImportSet) : List String :=
  s.ids.filter fun id => (m.resolve id).isNone

end ImportMapping

end SpringScaffold
