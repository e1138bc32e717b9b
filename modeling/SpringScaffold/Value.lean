import SpringScaffold.Binary64

/-! Free values, as a vendor extension may hold them. -/

namespace SpringScaffold

inductive Number where
  | integer (i : Int)
  | float (x : Binary64)
  deriving DecidableEq, Repr, Inhabited

inductive Value where
  | null
  | bool (b : Bool)
  | number (n : Number)
  | text (s : String)
  | list (items : List Value)
  | object (members : List (String × Value))
  deriving BEq, Repr, Inhabited

namespace Value

def integer (i : Int) : Value := .number (.integer i)

/-- Keeps the members sorted by key. A key that comes again replaces the value. -/
def putSorted (key : String) (value : Value) : List (String × Value) → List (String × Value)
  | [] => [(key, value)]
  | (k, v) :: rest =>
    if key = k then (key, value) :: rest
    else if key < k then (key, value) :: (k, v) :: rest
    else (k, v) :: putSorted key value rest

def sorted (members : List (String × Value)) : List (String × Value) :=
  members.foldl (fun acc (k, v) => putSorted k v acc) []

def ofOption (s : Option String) : Value := (s.map .text).getD .null

def texts (l : List String) : Value := .list (l.map .text)

end Value

end SpringScaffold
