import SpringScaffold.Yaml.Node

/-! From tokens to the tree of a document. Every reader gives back the tokens that it did not
take. -/

namespace SpringScaffold.Yaml

/-- The octets that the handles of tags stand for. -/
abbrev Handles := List (String × List UInt8)

def standardHandles : Handles := [("!", [Tag.mark]), ("!!", Tag.octetsOf Tag.standardSpace)]

/-- The full tag, unless its handle is unknown. -/
def fullTag? (handles : Handles) (handle : String) (suffix : List UInt8) : Option Tag :=
  if handle = "" then some ⟨suffix⟩
  else ((handles ++ standardHandles).lookup handle).map fun expansion => ⟨expansion ++ suffix⟩

/-- Reads an anchor and a tag, in either order. -/
def readLabels (handles : Handles) :
    List Token → Option (Option String × Option Tag × List Token)
  | .anchor name :: .tag handle suffix :: rest | .tag handle suffix :: .anchor name :: rest => do
    return (some name, some (← fullTag? handles handle suffix), rest)
  | .anchor name :: rest => some (some name, none, rest)
  | .tag handle suffix :: rest => do return (none, some (← fullTag? handles handle suffix), rest)
  | rest => some (none, none, rest)

/-- The next token is of the given ones. -/
def comes (ts : List Token) (these : List Token) : Bool := ts.head?.any these.contains

mutual

/-- Reads a node. Blocks are allowed where `block` says so, and a list that is not indented further
where `indentless` does. -/
def readNode (handles : Handles) (block indentless : Bool) :
    (fuel : Nat) → List Token → Option (Node String × List Token)
  | 0, _ => none
  | _ + 1, .alias name :: rest => some (.alias name, rest)
  | fuel + 1, ts => do
    let (anchor, tag, ts) ← readLabels handles ts
    if indentless && comes ts [.blockEntry] then
      let (items, ts) ← readIndentless handles fuel ts
      return (.sequence anchor tag items, ts)
    else
      match ts with
      | .scalar text style :: ts => return (.scalar anchor tag text style, ts)
      | .flowSequenceStart :: ts =>
        let (items, ts) ← readFlowItems handles true fuel ts
        return (.sequence anchor tag items, ts)
      | .flowMappingStart :: ts =>
        let (members, ts) ← readFlowMembers handles true fuel ts
        return (.mapping anchor tag members, ts)
      | ts =>
        if block && comes ts [.blockSequenceStart] then
          let (items, ts) ← readBlockItems handles fuel (ts.drop 1)
          return (.sequence anchor tag items, ts)
        else if block && comes ts [.blockMappingStart] then
          let (members, ts) ← readBlockMembers handles fuel (ts.drop 1)
          return (.mapping anchor tag members, ts)
        else if anchor.isSome || tag.isSome then return (.scalar anchor tag "" .plain, ts)
        else none
termination_by structural fuel => fuel

/-- Reads a node, or an empty one where one of the given tokens comes instead. -/
def readUnless (stop : List Token) (handles : Handles) (block indentless : Bool) :
    (fuel : Nat) → List Token → Option (Node String × List Token)
  | 0, _ => none
  | fuel + 1, ts =>
    if comes ts stop then some (.empty, ts) else readNode handles block indentless fuel ts
termination_by structural fuel => fuel

def readBlockItems (handles : Handles) :
    (fuel : Nat) → List Token → Option (List (Node String) × List Token)
  | 0, _ => none
  | fuel + 1, .blockEntry :: ts => do
    let (n, ts) ← readUnless [.blockEntry, .blockEnd] handles true false fuel ts
    let (rest, ts) ← readBlockItems handles fuel ts
    return (n :: rest, ts)
  | _ + 1, .blockEnd :: ts => some ([], ts)
  | _ + 1, _ => none
termination_by structural fuel => fuel

def readIndentless (handles : Handles) :
    (fuel : Nat) → List Token → Option (List (Node String) × List Token)
  | 0, _ => none
  | fuel + 1, .blockEntry :: ts => do
    let (n, ts) ← readUnless [.blockEntry, .key, .value, .blockEnd] handles true false fuel ts
    let (rest, ts) ← readIndentless handles fuel ts
    return (n :: rest, ts)
  | _ + 1, ts => some ([], ts)
termination_by structural fuel => fuel

def readBlockMembers (handles : Handles) :
    (fuel : Nat) → List Token → Option (List (Node String × Node String) × List Token)
  | 0, _ => none
  | fuel + 1, .key :: ts => do
    let (k, ts) ← readUnless [.key, .value, .blockEnd] handles true true fuel ts
    let (v, ts) ← readValue [.key, .value, .blockEnd] handles true fuel ts
    let (rest, ts) ← readBlockMembers handles fuel ts
    return ((k, v) :: rest, ts)
  | _ + 1, .blockEnd :: ts => some ([], ts)
  | _ + 1, _ => none
termination_by structural fuel => fuel

/-- Reads the value behind a colon. Without a colon the value is empty. -/
def readValue (stop : List Token) (handles : Handles) (block : Bool) :
    (fuel : Nat) → List Token → Option (Node String × List Token)
  | 0, _ => none
  | fuel + 1, .value :: ts => readUnless stop handles block block fuel ts
  | _ + 1, ts => some (.empty, ts)
termination_by structural fuel => fuel

/-- Reads items and the closing bracket. A comma comes before every item but the first, and may come
before the bracket. A key makes a mapping of one member. -/
def readFlowItems (handles : Handles) (first : Bool) :
    (fuel : Nat) → List Token → Option (List (Node String) × List Token)
  | 0, _ => none
  | _ + 1, .flowSequenceEnd :: ts => some ([], ts)
  | fuel + 1, ts =>
    match first, ts with
    | true, ts => readFlowItem handles fuel ts
    | false, .flowEntry :: ts => readFlowItem handles fuel ts
    | false, _ => none
termination_by structural fuel => fuel

def readFlowItem (handles : Handles) :
    (fuel : Nat) → List Token → Option (List (Node String) × List Token)
  | 0, _ => none
  | _ + 1, .flowSequenceEnd :: ts => some ([], ts)
  | fuel + 1, .key :: ts => do
    let (k, ts) ←
      if comes ts [.value, .flowEntry, .flowSequenceEnd] then some (.empty, ts.drop 1)
      else readNode handles false false fuel ts
    let (v, ts) ← readValue [.flowEntry, .flowSequenceEnd] handles false fuel ts
    let (rest, ts) ← readFlowItems handles false fuel ts
    return (.mapping none none [(k, v)] :: rest, ts)
  | fuel + 1, ts => do
    let (n, ts) ← readNode handles false false fuel ts
    let (rest, ts) ← readFlowItems handles false fuel ts
    return (n :: rest, ts)
termination_by structural fuel => fuel

def readFlowMembers (handles : Handles) (first : Bool) :
    (fuel : Nat) → List Token → Option (List (Node String × Node String) × List Token)
  | 0, _ => none
  | _ + 1, .flowMappingEnd :: ts => some ([], ts)
  | fuel + 1, ts =>
    match first, ts with
    | true, ts => readFlowMember handles fuel ts
    | false, .flowEntry :: ts => readFlowMember handles fuel ts
    | false, _ => none
termination_by structural fuel => fuel

/-- A node that is no key stands for a key with an empty value. -/
def readFlowMember (handles : Handles) :
    (fuel : Nat) → List Token → Option (List (Node String × Node String) × List Token)
  | 0, _ => none
  | _ + 1, .flowMappingEnd :: ts => some ([], ts)
  | fuel + 1, .key :: ts => do
    let (k, ts) ← readUnless [.value, .flowEntry, .flowMappingEnd] handles false false fuel ts
    let (v, ts) ← readValue [.flowEntry, .flowMappingEnd] handles false fuel ts
    let (rest, ts) ← readFlowMembers handles false fuel ts
    return ((k, v) :: rest, ts)
  | fuel + 1, ts => do
    let (k, ts) ← readNode handles false false fuel ts
    let (rest, ts) ← readFlowMembers handles false fuel ts
    return ((k, .empty) :: rest, ts)
termination_by structural fuel => fuel

end

/-- Reads the directives before a document. The version is 1.1 or 1.2 and given once, every handle
is given once. -/
def readDirectives (versioned : Bool) (handles : Handles) :
    List Token → Option (Handles × List Token)
  | .version major minor :: rest =>
    if versioned || major ≠ 1 || !(minor = 1 || minor = 2) then none
    else readDirectives true handles rest
  | .tagHandle handle expansion :: rest =>
    if (handles.lookup handle).isSome then none
    else readDirectives versioned ((handle, expansion) :: handles) rest
  | rest => some (handles, rest)

/-- What follows the mark of a document is its node, if there is one. -/
def readContent (handles : Handles) (fuel : Nat) (ts : List Token) :
    Option (Node String × List Token) :=
  match ts with
  | [] | .version .. :: _ | .tagHandle .. :: _ | .documentStart :: _ | .documentEnd :: _ =>
    some (.empty, ts)
  | ts => readNode handles true false fuel ts

/-- The tree of the one document of a text. A text without tokens is the empty document. -/
def document? (ts : List Token) : Option (Node String) := do
  let fuel := 4 * ts.length + 4
  let (n, rest) ←
    match ts with
    | [] => some (.empty, [])
    | .version .. :: _ | .tagHandle .. :: _ | .documentStart :: _ => do
      match ← readDirectives false [] ts with
      | (handles, .documentStart :: rest) => readContent handles fuel rest
      | _ => none
    | ts => readNode [] true false fuel ts
  if rest.all (· == .documentEnd) then some n else none

end SpringScaffold.Yaml
