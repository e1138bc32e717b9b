import SpringScaffold.Text.Runs

/-! Paths as texts: what their last part is, what stands before it, and how they are joined. -/

namespace SpringScaffold.Path

open Text

/-- What a path begins with: the root, or the dot of the current directory. -/
def head (p : List Char) : List Char :=
  match p with
  | '/' :: _ => ['/']
  | ['.'] => ['.']
  | '.' :: '/' :: _ => ['.']
  | _ => []

/-- The parts behind the head. -/
def parts (p : List Char) : List (List Char) :=
  match p.drop (head p).length with
  | [] => []
  | body => splitOn ['/'] body

/-- Empty parts and dots stand for the place where they are. -/
def isIdle (part : List Char) : Bool := part == [] || part == ['.']

/-- The parts without the idle ones at the end. -/
def trimmed (ps : List (List Char)) : List (List Char) := (ps.reverse.dropWhile isIdle).reverse

def joinParts (h : List Char) (ps : List (List Char)) : List Char := h ++ ['/'].intercalate ps

def parentChars? (p : List Char) : Option (List Char) :=
  match (trimmed (parts p)).reverse with
  | _ :: before => some (joinParts (head p) (trimmed before.reverse))
  | [] => if head p = ['.'] then some [] else none

def parent? (p : String) : Option String := (parentChars? p.toList).map String.ofList

/-- The last part, unless it leads upwards. -/
def fileName? (p : String) : Option String :=
  match (trimmed (parts p.toList)).getLast? with
  | some name => if name = ['.', '.'] then none else some (String.ofList name)
  | none => none

/-- A file name before and after its last dot. A dot at the start is part of the stem. -/
def splitExtension (name : String) : String × Option String :=
  match splitAtLast '.' name.toList with
  | some (before, after) =>
    if before = [] then (name, none) else (String.ofList before, some (String.ofList after))
  | none => (name, none)

def stem? (p : String) : Option String := (fileName? p).map fun n => (splitExtension n).1

def extension? (p : String) : Option String := (fileName? p).bind fun n => (splitExtension n).2

/-- A relative path below a directory. -/
def join (base p : String) : String :=
  if base = "" then p
  else if base.toList.getLast? = some '/' then base ++ p
  else base ++ "/" ++ p

def ancestorsUpTo : (steps : Nat) → String → List String
  | 0, _ => []
  | steps + 1, p =>
    match parent? p with
    | some q => if p = "" then [] else p :: ancestorsUpTo steps q
    | none => []

/-- A path and the paths that lead to it, the longest first, without the empty path and the root. -/
def ancestors (p : String) : List String := ancestorsUpTo (p.length + 1) p

end SpringScaffold.Path
