import SpringScaffold.Json.Tree

/-! Reading JSON texts into trees. Every reader gives back the rest of the text, or nothing once the
text is broken. -/

namespace SpringScaffold.Json

def isBlank (c : Char) : Bool := c == ' ' || c == '\n' || c == '\t' || c == '\r'

def skipBlanks (cs : List Char) : List Char := cs.dropWhile isBlank

def hexValue? (c : Char) : Option Nat :=
  if '0' ≤ c ∧ c ≤ '9' then some (c.toNat - 48)
  else if 'a' ≤ c ∧ c ≤ 'f' then some (c.toNat - 87)
  else if 'A' ≤ c ∧ c ≤ 'F' then some (c.toNat - 55)
  else none

/-- A character of a text as it is written: itself, or a code of 16 bits. -/
inductive Written where
  | char (c : Char)
  | code (n : Nat)

def shortEscape? : Char → Option Char
  | '"' => some '"'
  | '\\' => some '\\'
  | '/' => some '/'
  | 'b' => some (Char.ofNat 8)
  | 'f' => some (Char.ofNat 12)
  | 'n' => some '\n'
  | 'r' => some '\r'
  | 't' => some '\t'
  | _ => none

/-- Reads up to the closing quote. -/
def readWritten (acc : List Written) : List Char → Option (List Written × List Char)
  | [] => none
  | '"' :: rest => some (acc.reverse, rest)
  | '\\' :: 'u' :: a :: b :: c :: d :: rest => do
    let a ← hexValue? a
    let b ← hexValue? b
    let c ← hexValue? c
    let d ← hexValue? d
    readWritten (.code (((a * 16 + b) * 16 + c) * 16 + d) :: acc) rest
  | '\\' :: c :: rest => do
    let e ← shortEscape? c
    readWritten (.char e :: acc) rest
  | c :: rest => if c.toNat < 32 then none else readWritten (.char c :: acc) rest

def isHighSurrogate (n : Nat) : Bool := 0xD800 ≤ n && n ≤ 0xDBFF

def isLowSurrogate (n : Nat) : Bool := 0xDC00 ≤ n && n ≤ 0xDFFF

/-- The text that is meant. Surrogates have to come in pairs. -/
def denote? : List Written → Option (List Char)
  | [] => some []
  | .char c :: rest => (denote? rest).map (c :: ·)
  | .code n :: rest =>
    if isLowSurrogate n then none
    else if isHighSurrogate n then
      match rest with
      | .code m :: rest =>
        if isLowSurrogate m then
          (denote? rest).map (Char.ofNat ((n - 0xD800) * 1024 + (m - 0xDC00) + 0x10000) :: ·)
        else none
      | _ => none
    else (denote? rest).map (Char.ofNat n :: ·)

def readText (cs : List Char) : Option (Option String × List Char) :=
  (readWritten [] cs).map fun (ws, rest) => ((denote? ws).map String.ofList, rest)

def isDigit (c : Char) : Bool := '0' ≤ c && c ≤ '9'

def digits (cs : List Char) : List Nat × List Char :=
  ((cs.takeWhile isDigit).map (fun c => c.toNat - 48), cs.dropWhile isDigit)

def readFraction : List Char → Option (List Nat × List Char)
  | '.' :: rest =>
    match digits rest with
    | ([], _) => none
    | (ds, rest) => some (ds, rest)
  | rest => some ([], rest)

def readSign : List Char → Bool × List Char
  | '+' :: rest => (false, rest)
  | '-' :: rest => (true, rest)
  | rest => (false, rest)

def readExponent : List Char → Option (Option (Bool × List Nat) × List Char)
  | c :: rest =>
    if c = 'e' || c = 'E' then
      let (minus, rest) := readSign rest
      match digits rest with
      | ([], _) => none
      | (ds, rest) => some (some (minus, ds), rest)
    else some (none, c :: rest)
  | [] => some (none, [])

/-- A whole part without leading zeros, then a fraction and an exponent that may be missing. -/
def readUnsigned (negative : Bool) (cs : List Char) : Option (Numeral × List Char) := do
  let (whole, rest) := digits cs
  if whole = [] || (whole.head? = some 0 && whole.length > 1) then none
  let (fraction, rest) ← readFraction rest
  let (exponent, rest) ← readExponent rest
  return (⟨negative, whole, fraction, exponent⟩, rest)

def readNumeral : List Char → Option (Numeral × List Char)
  | '-' :: rest => readUnsigned true rest
  | rest => readUnsigned false rest

/-- The rest after a fixed word. -/
def readWord (word : String) (tree : Tree) (cs : List Char) : Tree × Option (List Char) :=
  if word.toList.isPrefixOf cs then (tree, some (cs.drop word.length)) else (.broken, none)

mutual

def readTree : (fuel : Nat) → List Char → Tree × Option (List Char)
  | 0, _ => (.broken, none)
  | fuel + 1, cs =>
    match skipBlanks cs with
    | [] => (.broken, none)
    | c :: rest =>
      if c = '"' then
        match readText rest with
        | some (content, rest) => (.text content, some rest)
        | none => (.broken, none)
      else if c = '[' then
        match skipBlanks rest with
        | ']' :: rest => (.list [] true, some rest)
        | rest =>
          match readItems fuel rest with
          | (items, some rest) => (.list items true, some rest)
          | (items, none) => (.list items false, none)
      else if c = '\x7b' then
        match skipBlanks rest with
        | '\x7d' :: rest => (.object [] none, some rest)
        | '"' :: rest =>
          match readMembers fuel rest with
          | (members, some rest) => (.object members none, some rest)
          | (members, none) => (.object members (some .broken), none)
        | rest => (.object [] (some (readTree fuel rest).1), none)
      else if c = 'n' then readWord "null" .null (c :: rest)
      else if c = 't' then readWord "true" (.bool true) (c :: rest)
      else if c = 'f' then readWord "false" (.bool false) (c :: rest)
      else
        match readNumeral (c :: rest) with
        | some (n, rest) => (.number n, some rest)
        | none => (.broken, none)
termination_by structural fuel => fuel

/-- One or more items and the closing bracket. -/
def readItems : (fuel : Nat) → List Char → List Tree × Option (List Char)
  | 0, _ => ([], none)
  | fuel + 1, cs =>
    match readTree fuel cs with
    | (t, none) => ([t], none)
    | (t, some rest) =>
      match skipBlanks rest with
      | ']' :: rest => ([t], some rest)
      | ',' :: rest =>
        match skipBlanks rest with
        | ']' :: _ => ([t], none)
        | rest =>
          let (ts, rest) := readItems fuel rest
          (t :: ts, rest)
      | _ => ([t], none)
termination_by structural fuel => fuel

/-- One or more members, the first from behind the quote of its key, and the closing brace. -/
def readMembers : (fuel : Nat) → List Char → List (Option String × Tree) × Option (List Char)
  | 0, _ => ([], none)
  | fuel + 1, cs =>
    match readText cs with
    | none => ([], none)
    | some (key, rest) =>
      match skipBlanks rest with
      | ':' :: rest =>
        match readTree fuel rest with
        | (t, none) => ([(key, t)], none)
        | (t, some rest) =>
          match skipBlanks rest with
          | '\x7d' :: rest => ([(key, t)], some rest)
          | ',' :: rest =>
            match skipBlanks rest with
            | '"' :: rest =>
              let (ms, rest) := readMembers fuel rest
              ((key, t) :: ms, rest)
            | _ => ([(key, t)], none)
          | _ => ([(key, t)], none)
      | _ => ([(key, .broken)], none)
termination_by structural fuel => fuel

end

/-- The tree of a text and whether the text ends with it. -/
def read (s : String) : Tree × Bool :=
  let cs := s.toList
  match readTree (2 * cs.length + 2) cs with
  | (t, some rest) => (t, (skipBlanks rest).isEmpty)
  | (t, none) => (t, false)

end SpringScaffold.Json
