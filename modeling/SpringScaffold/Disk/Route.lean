import SpringScaffold.Disk.Host
import SpringScaffold.Java.Output
import SpringScaffold.Text.LetterCase

/-! Moving a written file into the directory that its role calls for. -/

namespace SpringScaffold

namespace Role

def controllerDirectory : String := "controller"
def serviceDirectory : String := "service"

def endsIn (ending : String) (cs : List Char) : Bool := ending.toList.isSuffixOf cs

/-- The family that a file's name ends in, in any letter case. -/
def directoryByName (path : String) : Option String := do
  let stem ← Path.stem? path
  let cs := Text.lower stem.toList
  if endsIn controllerDirectory cs then some controllerDirectory
  else if endsIn serviceDirectory cs then some serviceDirectory
  else none

/-- The directory next to it that a file moves into. -/
def subdirectory (r : Role) (path : String) : Option String :=
  match r with
  | .controller => some controllerDirectory
  | .service => some serviceDirectory
  | .api => directoryByName path
  | .model | .other => none

end Role

inductive RouteError where
  | missingFileName (path : String)
  | createDirectory (path : String) (cause : OsError)
  | move (source target : String) (cause : OsError)
  deriving DecidableEq, Repr

namespace RouteError

def message : RouteError → String
  | .missingFileName path => path ++ " has no file name"
  | .createDirectory path cause =>
    "failed to create directory " ++ path ++ ": " ++ cause.message
  | .move source target cause =>
    "failed to move " ++ source ++ " to " ++ target ++ ": " ++ cause.message

def cause? : RouteError → Option OsError
  | .missingFileName _ => none
  | .createDirectory _ cause => some cause
  | .move _ _ cause => some cause

end RouteError

/-- Where a file of the given role belongs, if it does not stay. -/
def destination (path : String) (r : Role) : Except RouteError (Option String) :=
  match r.subdirectory path with
  | none => .ok none
  | some directory =>
    match Path.fileName? path with
    | none => .error (.missingFileName path)
    | some name =>
      .ok (some (Path.join (Path.join ((Path.parent? path).getD "") directory) name))

variable {m : Type → Type} [Monad m] [Host m]

/-- Moves a file, making the directory that it goes to. -/
def moveInto (source target : String) : m (Except RouteError Unit) := do
  let directory := (Path.parent? target).getD ""
  match ← Host.createDirectories directory with
  | .error e => return .error (.createDirectory directory e)
  | .ok () =>
    match ← Host.rename source target with
    | .error e => return .error (.move source target e)
    | .ok () => return .ok ()

/-- Moves a file where it belongs, and says where that is. -/
def route (path : String) (r : Role) : m (Except RouteError (Option String)) := do
  match destination path r with
  | .error e => return .error e
  | .ok none => return .ok none
  | .ok (some target) =>
    match ← moveInto path target with
    | .error e => return .error e
    | .ok () => return .ok (some target)

end SpringScaffold
