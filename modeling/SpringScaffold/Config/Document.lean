import SpringScaffold.Config
import SpringScaffold.Spec.Document
import SpringScaffold.Yaml.Document

/-! Reading the settings of a project from a document. All members may be absent. -/

namespace SpringScaffold

namespace Shape

def flagOr (name : String) (b : Bool) : String × Shape × Option Value :=
  (name, .flag, some (.bool b))

def textOr (name text : String) : String × Shape × Option Value := (name, .text, some (.text text))

def optionMembers : List (String × Shape × Option Value) :=
  [flagOr "use_bean_validation" Options.default.beanValidation,
    flagOr "use_dto" Options.default.dto, flagOr "use_lombok" Options.default.lombok,
    ("serialization_library", .choice (SerializationLibrary.all.map SerializationLibrary.word),
      some (.text Options.default.serialization.word))]

/-- What stands for options that are absent altogether. -/
def absentOptions : Value := .object (optionMembers.map fun (name, _, v) => (name, v.getD .null))

def config : Shape := .record "ScgConfig"
  [textOr "input" Config.default.input, textOr "output" Config.default.output,
    textOr "api_package" Config.default.apiPackage,
    textOr "model_package" Config.default.modelPackage,
    ("group_by", .choice (GroupBy.all.map GroupBy.word), some (.text Config.default.groupBy.word)),
    ("options", .record "GeneratorOptions" optionMembers, some absentOptions),
    ("import_mappings", .textMap, some (.object []))]

end Shape

def Options.ofValue (v : Value) : Options where
  beanValidation := (v.member "use_bean_validation").toBool
  dto := (v.member "use_dto").toBool
  lombok := (v.member "use_lombok").toBool
  serialization := (v.member "serialization_library").toChoice SerializationLibrary.all
    SerializationLibrary.word .jackson

namespace Config

def ofValue (v : Value) : Config where
  input := (v.member "input").toText
  output := (v.member "output").toText
  apiPackage := (v.member "api_package").toText
  modelPackage := (v.member "model_package").toText
  groupBy := (v.member "group_by").toChoice GroupBy.all GroupBy.word .tag
  options := .ofValue (v.member "options")
  importMappings := .ofList ((v.member "import_mappings").toMembers.map fun (k, v) => (k, v.toText))

def ofYaml (text : String) : Except Yaml.Fault Config :=
  (Yaml.document Shape.config text).map ofValue

end Config

end SpringScaffold
