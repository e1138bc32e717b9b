import SpringScaffold.Disk.Tree

/-! What a command needs of the machine that it runs on. -/

namespace SpringScaffold

/-- Files, and a place for notes to the user. -/
class Host (m : Type → Type) where
  exists? : String → m Bool
  read : String → m (Except OsError String)
  write : String → String → m (Except OsError Unit)
  createDirectories : String → m (Except OsError Unit)
  rename : String → String → m (Except OsError Unit)
  note : String → m Unit

/-- A file tree and the notes so far. -/
structure Desk where
  tree : FileTree
  notes : List String
  deriving Inhabited

namespace Desk

/-- Runs an operation that yields a new tree unless it fails. -/
def change (f : FileTree → Except OsError FileTree) : StateM Desk (Except OsError Unit) := fun d =>
  match f d.tree with
  | .ok t => (.ok (), { d with tree := t })
  | .error e => (.error e, d)

instance : Host (StateM Desk) where
  exists? p := fun d => (d.tree.exists? p, d)
  read p := fun d => (d.tree.read p, d)
  write p content := change (·.write p content)
  createDirectories p := fun d =>
    let (result, t) := d.tree.createDirectories p
    (result, { d with tree := t })
  rename source target := change (·.rename source target)
  note line := fun d => ((), { d with notes := d.notes ++ [line] })

end Desk

end SpringScaffold
