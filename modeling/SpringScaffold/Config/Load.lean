import SpringScaffold.Config.Document
import SpringScaffold.Disk.Host

/-! Loading the settings of a project from its file. -/

namespace SpringScaffold

inductive ConfigError where
  | read (path : String) (cause : OsError)
  | parse (path : String) (fault : Yaml.Fault)
  deriving DecidableEq, Repr

namespace ConfigError

def cause : ConfigError → String
  | .read _ cause => cause.message
  | .parse _ fault => fault.message

def message (e : ConfigError) : String :=
  match e with
  | .read path _ => "failed to read config " ++ path ++ ": " ++ e.cause
  | .parse path _ => "failed to parse config " ++ path ++ ": " ++ e.cause

end ConfigError

namespace Config

variable {m : Type → Type} [Monad m] [Host m]

/-- The settings in a file, if there is such a file. -/
def load (path : String) : m (Except ConfigError (Option Config)) := do
  if ← Host.exists? path then
    match ← Host.read path with
    | .error e => return .error (.read path e)
    | .ok text =>
      match ofYaml text with
      | .error fault => return .error (.parse path fault)
      | .ok c => return .ok (some c)
  else return .ok none

end Config

end SpringScaffold
