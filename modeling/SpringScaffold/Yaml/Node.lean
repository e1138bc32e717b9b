import SpringScaffold.Yaml.Token

/-! YAML documents as trees. Anchors and the aliases that point to them are names at first, then
numbers. -/

namespace SpringScaffold.Yaml

inductive Node (α : Type) where
  | alias (target : α)
  | scalar (anchor : Option α) (tag : Option Tag) (text : String) (style : ScalarStyle)
  | sequence (anchor : Option α) (tag : Option Tag) (items : List (Node α))
  | mapping (anchor : Option α) (tag : Option Tag) (members : List (Node α × Node α))
  deriving Inhabited

namespace Node

variable {α : Type}

def empty : Node α := .scalar none none "" .plain

def isAlias : Node α → Bool
  | .alias _ => true
  | _ => false

def anchor? : Node α → Option α
  | .alias _ => none
  | .scalar anchor .. | .sequence anchor .. | .mapping anchor .. => anchor

mutual

/-- How many marks a node takes: one for what has no inside, two for what has one. -/
def marks : Node α → Nat
  | .alias _ | .scalar .. => 1
  | .sequence _ _ items => marksOfItems items + 2
  | .mapping _ _ members => marksOfMembers members + 2
termination_by structural n => n

def marksOfItems : List (Node α) → Nat
  | [] => 0
  | n :: rest => marks n + marksOfItems rest
termination_by structural l => l

def marksOfMembers : List (Node α × Node α) → Nat
  | [] => 0
  | m :: rest => marksOfMember m + marksOfMembers rest
termination_by structural l => l

def marksOfMember : Node α × Node α → Nat
  | (key, value) => marks key + marks value
termination_by structural m => m

end

mutual

/-- A node and all inside it, each before its inside, in front of other nodes. -/
def nodesBefore (others : List (Node α)) : Node α → List (Node α)
  | .sequence anchor tag items => .sequence anchor tag items :: itemsBefore others items
  | .mapping anchor tag members => .mapping anchor tag members :: membersBefore others members
  | n => n :: others
termination_by structural n => n

def itemsBefore (others : List (Node α)) : List (Node α) → List (Node α)
  | [] => others
  | n :: rest => nodesBefore (itemsBefore others rest) n
termination_by structural l => l

def membersBefore (others : List (Node α)) : List (Node α × Node α) → List (Node α)
  | [] => others
  | m :: rest => memberBefore (membersBefore others rest) m
termination_by structural l => l

def memberBefore (others : List (Node α)) : Node α × Node α → List (Node α)
  | (key, value) => nodesBefore (nodesBefore others value) key
termination_by structural m => m

end

def nodes (n : Node α) : List (Node α) := nodesBefore [] n

/-- The numbers of the names so far. -/
abbrev Numbering := List (String × Nat)

/-- A name gets the count of the different names before it, also where it comes again. -/
def assign (names : Numbering) : Option String → Option Nat × Numbering
  | none => (none, names)
  | some name => (some names.length, (name, names.length) :: names.filter (·.1 != name))

mutual

/-- Replaces names by numbers in the order of the text. Fails where an alias has no anchor before
it. -/
def number (names : Numbering) : Node String → Option (Node Nat × Numbering)
  | .alias target => (names.lookup target).map fun n => (.alias n, names)
  | .scalar anchor tag text style =>
    let (anchor, names) := assign names anchor
    some (.scalar anchor tag text style, names)
  | .sequence anchor tag items => do
    let (anchor, names) := assign names anchor
    let (items, names) ← numberItems names items
    return (.sequence anchor tag items, names)
  | .mapping anchor tag members => do
    let (anchor, names) := assign names anchor
    let (members, names) ← numberMembers names members
    return (.mapping anchor tag members, names)
termination_by structural n => n

def numberItems (names : Numbering) : List (Node String) → Option (List (Node Nat) × Numbering)
  | [] => some ([], names)
  | n :: rest => do
    let (n, names) ← number names n
    let (rest, names) ← numberItems names rest
    return (n :: rest, names)
termination_by structural l => l

def numberMembers (names : Numbering) :
    List (Node String × Node String) → Option (List (Node Nat × Node Nat) × Numbering)
  | [] => some ([], names)
  | m :: rest => do
    let (m, names) ← numberMember names m
    let (rest, names) ← numberMembers names rest
    return (m :: rest, names)
termination_by structural l => l

def numberMember (names : Numbering) :
    Node String × Node String → Option ((Node Nat × Node Nat) × Numbering)
  | (key, value) => do
    let (key, names) ← number names key
    let (value, names) ← number names value
    return ((key, value), names)
termination_by structural m => m

end

end Node

end SpringScaffold.Yaml
