import SpringScaffold.Json.Document
import SpringScaffold.Yaml.Grammar
import SpringScaffold.Yaml.Lexer
import SpringScaffold.Yaml.Plain

/-! Fitting a YAML document to a shape. The result is the document in its canonical form: every
record holds exactly its declared members in the order of their declaration. -/

namespace SpringScaffold.Yaml

inductive Step where
  | key (name : String)
  | index (i : Nat)
  /-- Behind a key that is no scalar of its own. -/
  | unnamed
  deriving DecidableEq, Repr

/-- A way into a document, the last step first. -/
abbrev Way := List Step

def Way.text : Way → String
  | [] => ""
  | [.key name] => name
  | [.unnamed] => "?"
  | .key name :: outer => Way.text outer ++ "." ++ name
  | .unnamed :: outer => Way.text outer ++ ".?"
  | .index i :: outer => Way.text outer ++ "[" ++ toString i ++ "]"

inductive Fault where
  | syntaxError
  | mismatch (way : Way) (m : Mismatch)
  deriving DecidableEq, Repr

def wording : Wording := ⟨"unit value", DecimalStyle.positional⟩

/-- What is wrong, with the way to it in front. -/
def Fault.message : Fault → String
  | .syntaxError => "syntax error"
  | .mismatch [] m => m.message wording
  | .mismatch way m => Way.text way ++ ": " ++ m.message wording

/-- The state counts the aliases that were followed. -/
abbrev Fitting := StateT Nat (Except Fault)

def refuse {α : Type} (way : Way) (m : Mismatch) : Fitting α := throw (.mismatch way m)

/-! Scalars. -/

def isLocal (tag : Option Tag) : Bool := tag.any (·.isLocal)

/-- A tag of the document's own that spells a word. -/
def isTagged (tag : Option Tag) : Bool := (tag.bind (·.word?)).isSome

/-- What a scalar denotes, or what its tag says that it should have been. -/
def denote (tag : Option Tag) (text : String) (style : ScalarStyle) : Except String Found :=
  if tag = some (Tag.standard "bool") then
    ((bool? text).map fun b => .ok (.bool b)).getD (.error "a boolean")
  else if tag = some (Tag.standard "int") then ((integer? text).map .ok).getD (.error "an integer")
  else if tag = some (Tag.standard "float") then ((float? text).map .ok).getD (.error "a float")
  else if tag = some (Tag.standard "null") then if isNull text then .ok .null else .error "null"
  else if style = .plain && (tag.isNone || isLocal tag) then .ok (plainMeaning text)
  else .ok (.text text)

/-- What is said of a node that is not what was wanted. -/
def misfit (wanted : String) : Node Nat → Mismatch
  | .scalar _ tag text style =>
    match denote tag text style with
    | .ok found => .invalidType found wanted
    | .error due => .invalidValue (.text text) due
  | .sequence .. => .invalidType .sequence wanted
  | .mapping .. => .invalidType .map wanted
  | .alias _ => .invalidType .null wanted

def isEmptyScalar (text : String) (style : ScalarStyle) : Bool := style == .plain && text == ""

/-- Nothing at all, or a word for null, written plainly. -/
def isUnit (text : String) (style : ScalarStyle) : Bool :=
  style == .plain && (text == "" || isNull text)

def fitText (way : Way) (wanted : String) : Node Nat → Fitting String
  | .scalar _ _ text _ => return text
  | n => refuse way (misfit wanted n)

def fitOption (way : Way) : Node Nat → Fitting Value
  | .scalar _ tag text style =>
    if style == .plain && tag == some (Tag.standard "null") then
      if isNull text then return .null
      else refuse way.tail (.invalidValue (.text text) "null")
    else if tag.isNone && isUnit text style then return .null
    else return .text text
  | n => return .text (← fitText way "a string" n)

def fitFlag (way : Way) (n : Node Nat) : Fitting Value :=
  let wrong := refuse way (misfit "a boolean" n)
  match n with
  | .scalar _ tag text style =>
    if style == .plain || (style == .literal && tag == some (Tag.standard "bool")) then
      match bool? text with
      | some b => return .bool b
      | none => wrong
    else wrong
  | _ => wrong

/-- A word by itself, or as the tag of nothing. `tagWay` is the way to a tag that is no such
word. -/
def fitChoice (words : List String) (way tagWay : Way) (n : Node Nat) : Fitting Value :=
  let pick (way : Way) (word : String) : Fitting Value :=
    if words.contains word then return .text word else refuse way (.unknownVariant word words)
  match n with
  | .scalar _ tag text style =>
    match tag.bind (·.word?) with
    | some word => do
      let v ← pick tagWay word
      if isUnit text style then return v else refuse way (.invalidValue (.text text) "null")
    | none => pick way text
  | .sequence _ tag _ | .mapping _ tag _ =>
    match tag.bind (·.word?) with
    | some word => do
      let _ ← pick tagWay word
      refuse way (misfit "unit" n)
    | none => refuse way (misfit "a YAML tag starting with '!'" n)
  | .alias _ => refuse way (misfit "unit" n)

/-! Nodes. -/

/-- What aliases stand for, and how many may be followed. -/
structure Anchors where
  nodes : List (Nat × Node Nat)
  limit : Nat

/-- Where two nodes have one number the later one counts. -/
def Anchors.of (n : Node Nat) : Anchors :=
  ⟨(n.nodes.filterMap fun n => n.anchor?.map (·, n)).reverse, 100 * n.marks⟩

def Anchors.follow (a : Anchors) : Node Nat → Fitting (Node Nat)
  | .alias target => do
    let followed := (← get) + 1
    if followed > a.limit then refuse [] .tooManyRepetitions
    else
      set followed
      return (a.nodes.lookup target).getD .empty
  | n => return n

/-- How deep lists and mappings may be nested. -/
def depthLimit : Nat := 128

/-- Goes inside a list or a mapping, unless that is too deep. -/
def inside {α β : Type} (fit : Option α) (f : α → Fitting β) : Fitting β :=
  match fit with
  | some fit => f fit
  | none => refuse [] .tooDeep

def stepOf : Node Nat → Step
  | .scalar _ _ text _ => .key text
  | _ => .unnamed

/-- Reads members one after the other. What is wanted of a key depends on whether it is the
first. -/
def fitMembers (a : Anchors) (way : Way) (wanted later : String)
    (fit : Way → Node Nat → Fitting Value) :
    List (Node Nat × Node Nat) → Fitting (List (String × Value))
  | [] => return []
  | (k, v) :: rest => do
    let key ← fitText way wanted (← a.follow k)
    let v ← fit (stepOf k :: way) v
    return (key, v) :: (← fitMembers a way later later fit rest)

def fitItems {α : Type} (way : Way) (fit : Way → Node Nat → Fitting α) (items : List (Node Nat)) :
    Fitting (List α) :=
  items.zipIdx.mapM fun (n, i) => fit (.index i :: way) n

/-- A value of any shape. -/
def fitFreeNode (a : Anchors) (fit : Option (Way → Node Nat → Fitting Value)) (way : Way)
    (n : Node Nat) : Fitting Value := do
  match ← a.follow n with
  | .scalar anchor tag text style =>
    if isTagged tag then refuse way (.invalidType .tagged "any valid JSON value")
    else
      match denote tag text style with
      | .error _ => refuse way (misfit "any valid JSON value" (.scalar anchor tag text style))
      | .ok (.bool b) => return .bool b
      | .ok (.integer i) => return .integer i
      | .ok (.float x) => return .number (.float x)
      | .ok (.text s) => return .text s
      | .ok (.wide _) => refuse way .numberOutOfRange
      | .ok _ => return .null
  | .sequence _ tag items =>
    if isTagged tag then refuse way (.invalidType .tagged "any valid JSON value")
    else inside fit fun fit => do return .list (← fitItems way fit items)
  | .mapping _ tag members =>
    if isTagged tag then refuse way (.invalidType .tagged "any valid JSON value")
    else inside fit fun fit => do
      return .object (Value.sorted (← fitMembers a way "a string key" "a string" fit members))
  | .alias _ => return .null

def fitFree (a : Anchors) : (depth : Nat) → Way → Node Nat → Fitting Value
  | 0 => fitFreeNode a none
  | depth + 1 => fitFreeNode a (some (fitFree a depth))

/-- Reads the declared members one after the other and passes over the others. -/
def fitDeclared (a : Anchors) (way : Way) (declared : List (String × Shape × Option Value))
    (fit : Shape → Way → Node Nat → Fitting Value) (read : List (String × Value)) :
    List (Node Nat × Node Nat) → Fitting (List (String × Value))
  | [] => return read
  | (k, v) :: rest => do
    let key ← fitText way "field identifier" (← a.follow k)
    match Shape.lookup declared key with
    | none => fitDeclared a way declared fit read rest
    | some shape =>
      if (read.lookup key).isSome then refuse way (.duplicateField key)
      else
        let v ← fit shape (stepOf k :: way) v
        fitDeclared a way declared fit (read ++ [(key, v)]) rest

def complete (way : Way) (declared : List (String × Shape × Option Value))
    (read : List (String × Value)) : Fitting Value :=
  match Shape.fill read declared with
  | .ok ms => return .object ms
  | .error name => refuse way (.missingField name)

/-- An empty plain scalar stands for an empty list, mapping or record. A tag that is not understood
is laid to what holds the node, or to the alias that leads to it. -/
def fitNode (a : Anchors) (depth : Nat) (fit : Option (Shape → Way → Node Nat → Fitting Value))
    (shape : Shape) (way : Way) (n : Node Nat) : Fitting Value := do
  let tagWay := if n.isAlias then way else way.tail
  let n ← a.follow n
  match shape, n with
  | .text, n => return .text (← fitText way "a string" n)
  | .optionalText, n => fitOption way n
  | .flag, n => fitFlag way n
  | .choice words, n => fitChoice words way tagWay n
  | .list item, .sequence _ _ items =>
    inside fit fun fit => do return .list (← fitItems way (fit item) items)
  | .textSet, .sequence _ _ items =>
    inside fit fun _ => do
      let read (way : Way) (n : Node Nat) : Fitting String := do
        fitText way "a string" (← a.follow n)
      return .texts (Json.firstOfEach (← fitItems way read items))
  | .textMap, .mapping _ _ members =>
    inside fit fun fit => do
      let ms ← fitMembers a way "a string" "a string" (fit .text) members
      return .object (Dictionary.ofList ms).entries
  | .extensions, .mapping _ _ members =>
    inside fit fun _ => do
      let ms ← fitMembers a way "a string" "a string" (fitFree a (depth - 1)) members
      return .object (Dictionary.ofList ms).entries
  | .record _ declared, .mapping _ _ members =>
    inside fit fun fit => do
      complete way declared (← fitDeclared a way declared fit [] members)
  | shape, .scalar anchor tag text style =>
    if isEmptyScalar text style then
      match shape with
      | .list _ | .textSet => return .list []
      | .record _ declared => complete way declared []
      | _ => return .object []
    else refuse way (misfit shape.wanted (.scalar anchor tag text style))
  | shape, n => refuse way (misfit shape.wanted n)

def fit (a : Anchors) : (depth : Nat) → Shape → Way → Node Nat → Fitting Value
  | 0 => fitNode a 0 none
  | depth + 1 => fitNode a (depth + 1) (some (fit a depth))

/-- The canonical form of a YAML text of the given shape. -/
def document (shape : Shape) (s : String) : Except Fault Value :=
  match (tokens? s).bind fun ts => (document? ts).bind fun n => (Node.number [] n).map (·.1) with
  | some n => ((fit (Anchors.of n) depthLimit shape [] n).run 0).map (·.1)
  | none => .error .syntaxError

end SpringScaffold.Yaml
