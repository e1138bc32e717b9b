import SpringScaffold.Command.Failure
import SpringScaffold.Disk.Route

/-! Writing generated files below an output directory and moving them where their roles call for. -/

namespace SpringScaffold

variable {m : Type → Type} [Monad m] [Host m]

abbrev Attempt (m : Type → Type) (α : Type) := ExceptT Failure m α

/-- Says what failed when the operating system refuses. -/
def attempt {α : Type} (what : String) (step : m (Except OsError α)) : Attempt m α := do
  match ← step with
  | .ok a => return a
  | .error e => throw ⟨what, [e.message]⟩

def note (line : String) : Attempt m Unit := ExceptT.lift (Host.note line)

def relocation (path : String) (e : RouteError) : Failure :=
  ⟨"failed to relocate " ++ path, e.message :: (e.cause?.map OsError.message).toList⟩

def writeFile (base : String) (f : GeneratedFile) : Attempt m Unit := do
  let path := Path.join base f.path
  let directory := (Path.parent? path).getD ""
  attempt ("failed to create directory " ++ directory) (Host.createDirectories directory)
  attempt ("failed to write " ++ path) (Host.write path f.content)
  match ← (route path f.role : m _) with
  | .error e => throw (relocation path e)
  | .ok target => note ("  wrote " ++ target.getD path)

def writeFiles (base : String) : List GeneratedFile → Attempt m Unit
  | [] => return ()
  | f :: rest => do
    writeFile base f
    writeFiles base rest

end SpringScaffold
