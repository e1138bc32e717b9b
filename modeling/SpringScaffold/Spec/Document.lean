import SpringScaffold.Schema
import SpringScaffold.Spec

/-! The canonical document of an API description: its shape, writing a description as such a
document, and reading it back. -/

namespace SpringScaffold

namespace Shape

def flagMember (name : String) : String × Shape × Option Value := (name, .flag, some (.bool false))

def textMember (name : String) : String × Shape × Option Value := (name, .text, none)

def optionMember (name : String) : String × Shape × Option Value :=
  (name, .optionalText, some .null)

def listMember (name : String) (item : Shape) : String × Shape × Option Value :=
  (name, .list item, some (.list []))

def importsMember : String × Shape × Option Value := ("imports", .textSet, some (.list []))

def extensionsMember : String × Shape × Option Value :=
  ("vendor_extensions", .extensions, some (.object []))

def containerMember (name : String) : String × Shape × Option Value :=
  (name, .choice (Container.all.map Container.word), some (.text Container.none.word))

def info : Shape := .record "IrInfo"
  [textMember "title", optionMember "description", textMember "version"]

def tag : Shape := .record "IrTag" [textMember "name", optionMember "description"]

def response : Shape := .record "IrResponse"
  [textMember "code", optionMember "description", optionMember "data_type",
    containerMember "container"]

def parameter : Shape := .record "IrParameter"
  [textMember "name", ("location", .choice (Location.all.map Location.word), none),
    textMember "data_type", flagMember "required", optionMember "description",
    flagMember "is_date", flagMember "is_date_time", extensionsMember]

def operation : Shape := .record "IrOperation"
  [textMember "operation_id", ("method", .choice (HttpMethod.all.map HttpMethod.word), none),
    textMember "path", optionMember "summary", optionMember "description", listMember "tags" tag,
    listMember "parameters" parameter, listMember "implicit_headers" parameter,
    listMember "responses" response, optionMember "return_type",
    containerMember "return_container", importsMember, flagMember "deprecated"]

def property : Shape := .record "IrProperty"
  [textMember "name", textMember "data_type", flagMember "required", optionMember "description",
    flagMember "is_date", flagMember "is_date_time", flagMember "is_byte_array",
    flagMember "is_enum", optionMember "example"]

def model : Shape := .record "IrModel"
  [textMember "name", ("class_name", .text, some (.text "")), optionMember "description",
    listMember "properties" property, flagMember "is_enum", listMember "enum_values" .text,
    flagMember "has_enums", importsMember, extensionsMember]

def spec : Shape := .record "IrSpec"
  [("info", info, none), listMember "operations" operation, listMember "models" model]

end Shape

/-! Reading the parts of a canonical document. What is not there reads as the default. -/

namespace Value

def member (v : Value) (name : String) : Value :=
  match v with
  | .object ms => (ms.lookup name).getD .null
  | _ => .null

def toText : Value → String
  | .text s => s
  | _ => ""

def toOption : Value → Option String
  | .text s => some s
  | _ => none

def toBool : Value → Bool
  | .bool b => b
  | _ => false

def toItems : Value → List Value
  | .list items => items
  | _ => []

def toMembers : Value → List (String × Value)
  | .object ms => ms
  | _ => []

/-- The first of `all` that the word stands for. -/
def toChoice {α : Type} (all : List α) (word : α → String) (default : α) (v : Value) : α :=
  (all.find? (word · == v.toText)).getD default

end Value

namespace Info

def toValue (i : Info) : Value := .object [
  ("title", .text i.title), ("description", .ofOption i.description), ("version", .text i.version)]

def ofValue (v : Value) : Info where
  title := (v.member "title").toText
  description := (v.member "description").toOption
  version := (v.member "version").toText

end Info

namespace Container

def ofValue (v : Value) : Container := v.toChoice all word .none

end Container

namespace Tag

def toValue (t : Tag) : Value := .object [
  ("name", .text t.name), ("description", .ofOption t.description)]

def ofValue (v : Value) : Tag where
  name := (v.member "name").toText
  description := (v.member "description").toOption

end Tag

namespace Response

def toValue (r : Response) : Value := .object [
  ("code", .text r.code), ("description", .ofOption r.description),
  ("data_type", .ofOption r.dataType), ("container", .text r.container.word)]

def ofValue (v : Value) : Response where
  code := (v.member "code").toText
  description := (v.member "description").toOption
  dataType := (v.member "data_type").toOption
  container := .ofValue (v.member "container")

end Response

namespace Parameter

def toValue (p : Parameter) : Value := .object [
  ("name", .text p.name.written), ("location", .text p.location.word),
  ("data_type", .text p.dataType), ("required", .bool p.required),
  ("description", .ofOption p.description), ("is_date", .bool p.isDate),
  ("is_date_time", .bool p.isDateTime), ("vendor_extensions", .object p.extensions.entries)]

def ofValue (v : Value) : Parameter where
  name := ⟨(v.member "name").toText⟩
  location := (v.member "location").toChoice Location.all Location.word .path
  dataType := (v.member "data_type").toText
  required := (v.member "required").toBool
  description := (v.member "description").toOption
  isDate := (v.member "is_date").toBool
  isDateTime := (v.member "is_date_time").toBool
  extensions := .ofList (v.member "vendor_extensions").toMembers

end Parameter

namespace Operation

def toValue (o : Operation) : Value := .object [
  ("operation_id", .text o.name.written), ("method", .text o.method.word), ("path", .text o.path),
  ("summary", .ofOption o.summary), ("description", .ofOption o.description),
  ("tags", .list (o.tags.map Tag.toValue)),
  ("parameters", .list (o.parameters.map Parameter.toValue)),
  ("implicit_headers", .list (o.implicitHeaders.map Parameter.toValue)),
  ("responses", .list (o.responses.map Response.toValue)),
  ("return_type", .ofOption o.returnType), ("return_container", .text o.returnContainer.word),
  ("imports", .texts o.imports.ids), ("deprecated", .bool o.deprecated)]

def ofValue (v : Value) : Operation where
  name := ⟨(v.member "operation_id").toText⟩
  method := (v.member "method").toChoice HttpMethod.all HttpMethod.word .get
  path := (v.member "path").toText
  summary := (v.member "summary").toOption
  description := (v.member "description").toOption
  tags := (v.member "tags").toItems.map Tag.ofValue
  parameters := (v.member "parameters").toItems.map Parameter.ofValue
  implicitHeaders := (v.member "implicit_headers").toItems.map Parameter.ofValue
  responses := (v.member "responses").toItems.map Response.ofValue
  returnType := (v.member "return_type").toOption
  returnContainer := .ofValue (v.member "return_container")
  imports := .ofList ((v.member "imports").toItems.map Value.toText)
  deprecated := (v.member "deprecated").toBool

end Operation

namespace Property

def toValue (p : Property) : Value := .object [
  ("name", .text p.name.written), ("data_type", .text p.dataType), ("required", .bool p.required),
  ("description", .ofOption p.description), ("is_date", .bool p.isDate),
  ("is_date_time", .bool p.isDateTime), ("is_byte_array", .bool p.isByteArray),
  ("is_enum", .bool p.isEnum), ("example", .ofOption p.sample)]

def ofValue (v : Value) : Property where
  name := ⟨(v.member "name").toText⟩
  dataType := (v.member "data_type").toText
  required := (v.member "required").toBool
  description := (v.member "description").toOption
  isDate := (v.member "is_date").toBool
  isDateTime := (v.member "is_date_time").toBool
  isByteArray := (v.member "is_byte_array").toBool
  isEnum := (v.member "is_enum").toBool
  sample := (v.member "example").toOption

end Property

namespace Model

def toValue (m : Model) : Value := .object [
  ("name", .text m.name), ("class_name", .text m.className),
  ("description", .ofOption m.description),
  ("properties", .list (m.properties.map Property.toValue)), ("is_enum", .bool m.isEnum),
  ("enum_values", .texts m.enumValues), ("has_enums", .bool m.hasEnums),
  ("imports", .texts m.imports.ids), ("vendor_extensions", .object m.extensions.entries)]

def ofValue (v : Value) : Model where
  name := (v.member "name").toText
  className := (v.member "class_name").toText
  description := (v.member "description").toOption
  properties := (v.member "properties").toItems.map Property.ofValue
  isEnum := (v.member "is_enum").toBool
  enumValues := (v.member "enum_values").toItems.map Value.toText
  hasEnums := (v.member "has_enums").toBool
  imports := .ofList ((v.member "imports").toItems.map Value.toText)
  extensions := .ofList (v.member "vendor_extensions").toMembers

end Model

namespace Group

def toValue (g : Group) : Value := .object [
  ("name", .text g.name.written),
  ("operations", .list (g.operations.map fun (i : Nat) => .integer i)),
  ("description", .ofOption g.description)]

end Group

namespace Spec

def toValue (s : Spec) : Value := .object [
  ("info", s.info.toValue), ("operations", .list (s.operations.map Operation.toValue)),
  ("models", .list (s.models.map Model.toValue)), ("groups", .list (s.groups.map Group.toValue))]

/-- A document has no groups: they are derived. -/
def ofValue (v : Value) : Spec where
  info := .ofValue (v.member "info")
  operations := (v.member "operations").toItems.map Operation.ofValue
  models := (v.member "models").toItems.map Model.ofValue
  groups := []

end Spec

end SpringScaffold
