import SpringScaffold.Disk.Host
import SpringScaffold.Json.Document
import SpringScaffold.Spec.Document
import SpringScaffold.Yaml.Document

/-! Loading an API description from the text of a document or from its file. -/

namespace SpringScaffold

inductive LoadError where
  | read (path : String) (cause : OsError)
  | json (fault : Json.Fault)
  | yaml (fault : Yaml.Fault)
  deriving DecidableEq, Repr

namespace LoadError

def cause : LoadError → String
  | .read _ cause => cause.message
  | .json fault => fault.message
  | .yaml fault => fault.message

def message (e : LoadError) : String :=
  match e with
  | .read path _ => "failed to read " ++ path ++ ": " ++ e.cause
  | .json _ => "failed to parse JSON: " ++ e.cause
  | .yaml _ => "failed to parse YAML: " ++ e.cause

end LoadError

namespace Spec

def ofJson (text : String) : Json.Fitted Spec :=
  (Json.document Shape.spec text).map ofValue

def ofYaml (text : String) : Except Yaml.Fault Spec :=
  (Yaml.document Shape.spec text).map ofValue

/-- The description in a file, which holds YAML unless its extension says JSON. -/
def ofText (path text : String) : Except LoadError Spec :=
  if Path.extension? path = some "json" then (ofJson text).mapError .json
  else (ofYaml text).mapError .yaml

variable {m : Type → Type} [Monad m] [Host m]

def load (path : String) : m (Except LoadError Spec) := do
  match ← Host.read path with
  | .error e => return .error (.read path e)
  | .ok text => return ofText path text

end Spec

end SpringScaffold
