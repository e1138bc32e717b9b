import SpringScaffold.Json.Numeral

/-! JSON texts as trees. Where a text breaks off or stops being JSON the tree ends in a broken leaf,
so that what stands before can still be read. -/

namespace SpringScaffold.Json

/-- A text node is empty where the escapes denote no text. A list says whether its bracket was
closed. An object says what stood where a key or the closing brace was due, if there was anything
else. -/
inductive Tree where
  | null
  | bool (b : Bool)
  | number (n : Numeral)
  | text (content : Option String)
  | list (items : List Tree) (closed : Bool)
  | object (members : List (Option String × Tree)) (stray : Option Tree)
  | broken
  deriving Repr, Inhabited

namespace Tree

mutual

/-- Nothing in the tree is broken. -/
def sound : Tree → Bool
  | .broken => false
  | .list items closed => soundItems items && closed
  | .object members stray => soundMembers members && stray.isNone
  | _ => true
termination_by structural t => t

def soundItems : List Tree → Bool
  | [] => true
  | t :: rest => t.sound && soundItems rest
termination_by structural l => l

def soundMembers : List (Option String × Tree) → Bool
  | [] => true
  | m :: rest => soundMember m && soundMembers rest
termination_by structural l => l

def soundMember : Option String × Tree → Bool
  | (_, t) => t.sound
termination_by structural m => m

end

mutual

/-- The tree of a value, with nothing broken. Floating-point numbers have none. -/
def ofValue : Value → Tree
  | .null => .null
  | .bool b => .bool b
  | .number (.integer i) =>
    .number ⟨i < 0, (toString i.natAbs).toList.map (fun c => c.toNat - 48), [], none⟩
  | .number (.float _) => .broken
  | .text s => .text (some s)
  | .list items => .list (ofValues items) true
  | .object members => .object (ofMembers members) none
termination_by structural v => v

def ofValues : List Value → List Tree
  | [] => []
  | v :: rest => ofValue v :: ofValues rest
termination_by structural l => l

def ofMembers : List (String × Value) → List (Option String × Tree)
  | [] => []
  | m :: rest => ofMember m :: ofMembers rest
termination_by structural l => l

def ofMember : String × Value → Option String × Tree
  | (key, v) => (some key, ofValue v)
termination_by structural m => m

end

end Tree

end SpringScaffold.Json
