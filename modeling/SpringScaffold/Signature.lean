import SpringScaffold.Dictionary
import SpringScaffold.Text.Alphanumeric
import SpringScaffold.Text.Blank
import SpringScaffold.Text.Runs

/-! Type signatures: splitting off one container, putting it back, and the identifiers inside. -/

namespace SpringScaffold

open Text

/-- The collection that a type is wrapped in. -/
inductive Container where
  | none
  | list
  | map
  | set
  deriving Repr, DecidableEq, Inhabited

namespace Container

def all : List Container := [.none, .list, .map, .set]

def word : Container → String
  | .none => "none"
  | .list => "list"
  | .map => "map"
  | .set => "set"

def isNone (c : Container) : Bool := c == .none

/-- How a signature of this container may begin. -/
def openings : Container → List String
  | .none => []
  | .list => ["List", "java.util.List"]
  | .map => ["Map", "java.util.Map"]
  | .set => ["Set", "java.util.Set"]

def opens (c : Container) (cs : List Char) : Bool :=
  c.openings.any (·.toList.isPrefixOf cs)

end Container

/-- A base type and the container around it. -/
structure SplitType where
  base : String
  container : Container
  deriving Repr, DecidableEq

namespace Signature

/-- The base type of whatever has no body. -/
def void : String := "Void"

/-- The text between the first `<` and the last `>`, which have to stand in this order. -/
def inner? (cs : List Char) : Option (List Char) := do
  let (_, rest) ← splitAtFirst '<' cs
  let (inside, _) ← splitAtLast '>' rest
  return inside

/-- The text after the first comma. -/
def value? (cs : List Char) : Option (List Char) := (splitAtFirst ',' cs).map (·.2)

/-- Splits one container off. The containers are tried in the order list, map, set, by the letters
that the text begins with, and a map's key type is dropped. -/
def splitChars? (cs : List Char) : Option (List Char × Container) :=
  if Container.list.opens cs then (inner? cs).map fun t => (trim t, .list)
  else if Container.map.opens cs then ((inner? cs).bind value?).map fun t => (trim t, .map)
  else if Container.set.opens cs then (inner? cs).map fun t => (trim t, .set)
  else none

/-- An absent signature is the void type without container. -/
def split? : Option String → Option SplitType
  | none => some ⟨void, .none⟩
  | some s => (splitChars? s.toList).map fun (base, c) => ⟨String.ofList base, c⟩

/-- A signature that cannot be split is its own base type. -/
def split (s : Option String) : SplitType :=
  (split? s).getD ⟨s.getD void, .none⟩

/-- Puts a base type back into its container. The keys of a map are strings. -/
def wrap (base : String) : Container → String
  | .none => base
  | .list => "List<" ++ base ++ ">"
  | .set => "Set<" ++ base ++ ">"
  | .map => "Map<String, " ++ base ++ ">"

def isImportable (c : Char) : Bool := isAlphanumeric c || c == '_' || c == '.'

/-- The identifiers of a signature in order, as an import list looks for them. -/
def identifiers (s : String) : List String :=
  ((splitWhere (!isImportable ·) s.toList).filter (!·.isEmpty)).map String.ofList

def isReference (c : Char) : Bool := isImportable c || c == '$'

/-- What an identifier is called once the names in the dictionary have changed. -/
def newName (renames : Dictionary String) (id : String) : String := (renames.find? id).getD id

/-- A signature that is renamed from left to right: what is written already, and the identifier that
is being read. -/
structure Renaming where
  out : String
  ident : String
  deriving DecidableEq, Repr

namespace Renaming

def start : Renaming := ⟨"", ""⟩

/-- Writes the identifier that has been read, under its new name. -/
def flush (renames : Dictionary String) (r : Renaming) : Renaming :=
  if r.ident = "" then r else ⟨r.out ++ newName renames r.ident, ""⟩

/-- Reads one character. Whatever belongs to no identifier ends the one before it. -/
def step (renames : Dictionary String) (r : Renaming) (c : Char) : Renaming :=
  if isReference c then ⟨r.out, r.ident.push c⟩
  else ⟨(r.flush renames).out.push c, (r.flush renames).ident⟩

end Renaming

/-- Replaces whole identifiers, qualified names taken as one, and leaves all else. -/
def rename (renames : Dictionary String) (s : String) : String :=
  ((s.toList.foldl (Renaming.step renames) .start).flush renames).out

end Signature

end SpringScaffold
