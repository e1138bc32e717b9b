import SpringScaffold.ImportMapping
import SpringScaffold.Schema

/-! The settings of a project. -/

namespace SpringScaffold

/-- The libraries that read and write JSON in the rendered classes. -/
inductive SerializationLibrary where
  | jackson
  deriving DecidableEq, Repr, Inhabited

namespace SerializationLibrary

def all : List SerializationLibrary := [.jackson]

def word : SerializationLibrary → String
  | .jackson => "jackson"

end SerializationLibrary

/-- What operations are grouped by: their first tag, or the first fixed segment of their path. -/
inductive GroupBy where
  | tag
  | route
  deriving DecidableEq, Repr, Inhabited

namespace GroupBy

def all : List GroupBy := [.tag, .route]

def word : GroupBy → String
  | .tag => "tag"
  | .route => "route"

end GroupBy

structure Options where
  beanValidation : Bool
  /-- Class names get the suffix `Dto`. -/
  dto : Bool
  lombok : Bool
  serialization : SerializationLibrary
  deriving DecidableEq, Repr

def Options.default : Options := ⟨true, false, true, .jackson⟩

instance : Inhabited Options := ⟨.default⟩

structure Config where
  input : String
  output : String
  apiPackage : String
  modelPackage : String
  groupBy : GroupBy
  options : Options
  importMappings : Dictionary String
  deriving DecidableEq, Repr

namespace Config

def default : Config where
  input := "ir.yaml"
  output := "generated-code/javaSpring"
  apiPackage := "ru.egartech.swagger"
  modelPackage := "ru.egartech.swagger.model"
  groupBy := .tag
  options := .default
  importMappings := .empty

instance : Inhabited Config := ⟨default⟩

def mapping (c : Config) : ImportMapping := .withOverrides c.importMappings.entries

/-- The name of the file that holds a project's settings. -/
def fileName : String := ".scg.yaml"

/-- The text of a new project's settings. -/
def initialText : String := String.join [
  "# scg configuration\n",
  "input: ir.yaml\n",
  "output: generated-code/javaSpring\n",
  "\n",
  "api_package: ru.egartech.swagger\n",
  "model_package: ru.egartech.swagger.model\n",
  "\n",
  "group_by: tag            # tag | route\n",
  "\n",
  "options:\n",
  "  use_bean_validation: true\n",
  "  use_dto: false          # append \"Dto\" to model class names\n",
  "  use_lombok: true\n",
  "  serialization_library: jackson\n",
  "\n",
  "import_mappings: \x7b\x7d\n",
  "  # ApiIgnore: springfox.documentation.annotations.ApiIgnore\n"]

end Config

end SpringScaffold
