import SpringScaffold.Dictionary
import SpringScaffold.Json.Reader
import SpringScaffold.Mismatch
import SpringScaffold.Schema

/-! Fitting a JSON tree to a shape. The result is the document in its canonical form: every record
holds exactly its declared members in the order of their declaration. The first thing wrong from
left to right is what is reported, be it broken text or a value that does not fit. -/

namespace SpringScaffold.Json

inductive Fault where
  | syntaxError
  | mismatch (m : Mismatch)
  deriving DecidableEq, Repr

abbrev Fitted := Except Fault

def wording : Wording := ⟨"null", DecimalStyle.plus⟩

def Fault.message : Fault → String
  | .syntaxError => "syntax error"
  | .mismatch m => m.message wording

/-- How many lists and objects may stand inside one another where their content is kept. -/
def depthLimit : Nat := 127

/-- What an error says of a tree that does not fit. A text or number that denotes nothing is itself
the fault, and the inside of a list or an object is not looked at. -/
def found : Tree → Fitted Found
  | .null => .ok .null
  | .bool b => .ok (.bool b)
  | .number n =>
    match n.toNumber? with
    | some (.integer i) => .ok (.integer i)
    | some (.float x) => .ok (.float x)
    | none => .error .syntaxError
  | .text (some s) => .ok (.text s)
  | .text none => .error .syntaxError
  | .list _ _ => .ok .sequence
  | .object _ _ => .ok .map
  | .broken => .error .syntaxError

def refuse {α : Type} (t : Tree) (wanted : String) : Fitted α := do
  let f ← found t
  .error (.mismatch (.invalidType f wanted))

/-- Succeeds where a list or an object was closed. -/
def closing (closed : Bool) : Fitted Unit := if closed then .ok () else .error .syntaxError

def fitText (t : Tree) : Fitted String :=
  match t with
  | .text (some s) => .ok s
  | t => refuse t "a string"

def fitKey : Option String → Fitted String
  | some key => .ok key
  | none => .error .syntaxError

mutual

/-- A value of any shape. -/
def fitFree (depth : Nat) : Tree → Fitted Value
  | .null => .ok .null
  | .bool b => .ok (.bool b)
  | .number n => (n.toNumber?.map fun x => .ok (.number x)).getD (.error .syntaxError)
  | .text content => (fitKey content).map .text
  | .list items closed =>
    if depth = 0 then .error .syntaxError
    else do
      let vs ← fitFreeItems (depth - 1) items
      closing closed
      return .list vs
  | .object members stray =>
    if depth = 0 then .error .syntaxError
    else do
      let ms ← fitFreeMembers (depth - 1) members
      closing stray.isNone
      return .object (Value.sorted ms)
  | .broken => .error .syntaxError
termination_by structural t => t

def fitFreeItems (depth : Nat) : List Tree → Fitted (List Value)
  | [] => .ok []
  | t :: rest => do
    let v ← fitFree depth t
    let vs ← fitFreeItems depth rest
    return v :: vs
termination_by structural l => l

def fitFreeMembers (depth : Nat) : List (Option String × Tree) → Fitted (List (String × Value))
  | [] => .ok []
  | m :: rest => do
    let m ← fitFreeMember depth m
    let ms ← fitFreeMembers depth rest
    return m :: ms
termination_by structural l => l

def fitFreeMember (depth : Nat) : Option String × Tree → Fitted (String × Value)
  | (key, t) => do
    let key ← fitKey key
    let v ← fitFree depth t
    return (key, v)
termination_by structural m => m

end

/-- One of the given words, as a text or as the key of an object that holds nothing but null. -/
def fitChoice (words : List String) : Tree → Fitted String
  | .text content => do
    let w ← fitKey content
    if words.contains w then .ok w else .error (.mismatch (.unknownVariant w words))
  | .object ((key, t) :: rest) stray => do
    let w ← fitKey key
    if !words.contains w then .error (.mismatch (.unknownVariant w words))
    else
      match t with
      | .null => do
        closing (rest.isEmpty && stray.isNone)
        return w
      | t => refuse t "unit"
  | .object [] (some t) => refuse t "variant identifier"
  | _ => .error .syntaxError

def firstOfEach (texts : List String) : List String :=
  texts.foldl (fun acc s => if acc.contains s then acc else acc ++ [s]) []

mutual

/-- The canonical form of a tree of the given shape, or the first thing wrong with it. -/
def fit (depth : Nat) : Shape → Tree → Fitted Value
  | .text, t => (fitText t).map .text
  | .optionalText, .null => .ok .null
  | .optionalText, t => (fitText t).map .text
  | .flag, .bool b => .ok (.bool b)
  | .flag, t => refuse t "a boolean"
  | .choice words, t => (fitChoice words t).map .text
  | .list item, .list items closed => do
    let vs ← fitItems (depth - 1) item items
    closing closed
    return .list vs
  | .textSet, .list items closed => do
    let texts ← items.mapM fitText
    closing closed
    return .texts (firstOfEach texts)
  | .textMap, .object members stray => do
    let ms ← members.mapM fun (key, t) => do
      let key ← fitKey key
      let s ← fitText t
      return (key, Value.text s)
    closing stray.isNone
    return .object (Dictionary.ofList ms).entries
  | .extensions, .object members stray => do
    let ms ← fitFreeMembers (depth - 1) members
    closing stray.isNone
    return .object (Dictionary.ofList ms).entries
  | .record _ declared, .object members stray => do
    let read ← fitMembers (depth - 1) declared [] members
    closing stray.isNone
    match Shape.fill read declared with
    | .ok ms => return .object ms
    | .error name => .error (.mismatch (.missingField name))
  | .record title declared, .list items closed => do
    let ms ← fitPositions (depth - 1) title declared.length 0 declared items closed
    return .object ms
  | shape, t => refuse t shape.wanted
termination_by structural _ t => t

def fitItems (depth : Nat) (item : Shape) : List Tree → Fitted (List Value)
  | [] => .ok []
  | t :: rest => do
    let v ← fit depth item t
    let vs ← fitItems depth item rest
    return v :: vs
termination_by structural l => l

/-- Reads the declared members one after the other and passes over the others. -/
def fitMembers (depth : Nat) (declared : List (String × Shape × Option Value))
    (read : List (String × Value)) : List (Option String × Tree) → Fitted (List (String × Value))
  | [] => .ok read
  | m :: rest => do
    let read ← fitMember depth declared read m
    fitMembers depth declared read rest
termination_by structural l => l

def fitMember (depth : Nat) (declared : List (String × Shape × Option Value))
    (read : List (String × Value)) : Option String × Tree → Fitted (List (String × Value))
  | (key, t) => do
    let key ← fitKey key
    match Shape.lookup declared key with
    | none => do
      closing t.sound
      return read
    | some shape =>
      if (read.lookup key).isSome then .error (.mismatch (.duplicateField key))
      else do
        let v ← fit depth shape t
        return read ++ [(key, v)]
termination_by structural m => m

/-- Reads a list as the members in the order of their declaration. -/
def fitPositions (depth : Nat) (title : String) (total : Nat) (position : Nat)
    (declared : List (String × Shape × Option Value)) :
    List Tree → (closed : Bool) → Fitted (List (String × Value))
  | [], closed => do
    closing closed
    match Shape.fill [] declared with
    | .ok ms => return ms
    | .error name =>
      .error (.mismatch (.invalidLength (position + declared.findIdx (·.1 = name)) title total))
  | t :: rest, closed =>
    match declared with
    | [] => .error .syntaxError
    | (name, shape, _) :: declared => do
      let v ← fit depth shape t
      let ms ← fitPositions depth title total (position + 1) declared rest closed
      return (name, v) :: ms
termination_by structural l => l

end

/-- The canonical form of a JSON text of the given shape. -/
def document (shape : Shape) (s : String) : Fitted Value := do
  let (t, ended) := read s
  let v ← fit depthLimit shape t
  closing ended
  return v

end SpringScaffold.Json
