import SpringScaffold.Json.Reader
import SpringScaffold.Yaml.Cursor

/-! Reading scalars: quoted and plain ones, whose lines are folded, and block scalars. Every reader
gives the text that is meant and the place behind it. -/

namespace SpringScaffold.Yaml

def isGapChar (x : Char) : Bool := isSpace x || isBreak x

/-- What a stretch of white space between two words stands for: a single line break is a space, of
several the first is dropped. An escaped line break before it stands for nothing. -/
def foldGap (escaped : Bool) (gap : List Char) : List Char :=
  match escaped, gap.filter isBreak with
  | true, breaks => breaks
  | false, [] => gap
  | false, ['\n'] => [' ']
  | false, '\n' :: more => more
  | false, breaks => breaks

def foldedGap (escaped : Bool) (c : Cursor) : List Char × Cursor :=
  let (gap, c) := c.span isGapChar
  (foldGap escaped gap, c)

/-! Quoted scalars. -/

/-- The character of an escape that has no code. -/
def escapedChar? : Char → Option Char
  | '0' => some (Char.ofNat 0)
  | 'a' => some (Char.ofNat 7)
  | 'b' => some (Char.ofNat 8)
  | 't' | '\t' => some '\t'
  | 'n' => some '\n'
  | 'v' => some (Char.ofNat 11)
  | 'f' => some (Char.ofNat 12)
  | 'r' => some '\r'
  | 'e' => some (Char.ofNat 27)
  | ' ' => some ' '
  | '"' => some '"'
  | '/' => some '/'
  | '\\' => some '\\'
  | 'N' => some nextLine
  | '_' => some (Char.ofNat 0xA0)
  | 'L' => some lineSeparator
  | 'P' => some paragraphSeparator
  | _ => none

def codeLength? : Char → Option Nat
  | 'x' => some 2
  | 'u' => some 4
  | 'U' => some 8
  | _ => none

/-- The number that hexadecimal digits denote. -/
def hexNumber? (cs : List Char) : Option Nat :=
  cs.foldlM (fun n c => (Json.hexValue? c).map (16 * n + ·)) 0

def charOfCode? (n : Nat) : Option Char := if n.isValidChar then some (Char.ofNat n) else none

/-- Reads an escape from behind its backslash. -/
def readEscape (c : Cursor) : Option (Char × Cursor) := do
  let x ← c.head?
  match codeLength? x with
  | some n =>
    let digits := (c.rest.drop 1).take n
    if digits.length < n then none
    else
      let code ← hexNumber? digits
      return (← charOfCode? code, c.skip (n + 1))
  | none => return (← escapedChar? x, c.next)

/-- Reads to the closing quote. What was read is kept backwards. -/
def readQuoted (quote : Char) :
    (fuel : Nat) → (read : List Char) → Cursor → Option (List Char × Cursor)
  | 0, _, _ => none
  | fuel + 1, read, c =>
    if c.atDocumentMark then none
    else
      match c.rest with
      | [] => none
      | x :: more =>
        if isGapChar x then
          let (gap, c) := foldedGap false c
          readQuoted quote fuel (gap.reverse ++ read) c
        else if x = quote then
          if quote = '\'' && more.head? = some '\'' then
            readQuoted quote fuel ('\'' :: read) (c.skip 2)
          else some (read.reverse, c.next)
        else if x = '\\' && quote = '"' then
          if more.head?.any isBreak then
            let (gap, c) := foldedGap true (c.skip 2)
            readQuoted quote fuel (gap.reverse ++ read) c
          else
            match readEscape c.next with
            | some (y, c) => readQuoted quote fuel (y :: read) c
            | none => none
        else readQuoted quote fuel (x :: read) c.next

/-! Plain scalars. -/

def isBracket (x : Char) : Bool := [',', '[', ']', '\x7b', '\x7d'].contains x

/-- A plain scalar ends before a colon and a gap, inside brackets also before a bracket or comma. -/
def endsPlain (flow : Bool) : List Char → Bool
  | [] => true
  | x :: more => (x == ':' && Cursor.isGap more) || (flow && isBracket x)

/-- Inside brackets a colon must not touch one. -/
def badColon (flow : Bool) : List Char → Bool
  | ':' :: x :: _ => flow && (isBracket x || x == '?')
  | _ => false

/-- White space whose lines start with a tab where their indentation is due. -/
def badTab (indent : Int) : (column : Option Nat) → List Char → Bool
  | _, [] => false
  | column, x :: rest =>
    if isBreak x then badTab indent (some 0) rest
    else
      match column with
      | some n => (x == '\t' && n < indent) || badTab indent (some (n + 1)) rest
      | none => badTab indent none rest

/-- Reads up to where the scalar ends. The white space after the last word is passed over, and the
flag says whether a line ended in it. -/
def readPlain (flow : Bool) (indent : Int) :
    (fuel : Nat) → (read gap : List Char) → (broken : Bool) → Cursor →
      Option (List Char × Bool × Cursor)
  | 0, _, _, _, _ => none
  | fuel + 1, read, gap, broken, c =>
    match c.rest with
    | [] => some (read.reverse, broken, c)
    | x :: _ =>
      if isGapChar x then
        let (blanks, c) := c.span isGapChar
        let broken := blanks.any isBreak
        if badTab indent none blanks then none
        else if (!flow && c.column < indent) || c.atDocumentMark || c.head? = some '#' then
          some (read.reverse, broken, c)
        else readPlain flow indent fuel read (foldGap false blanks) broken c
      else if badColon flow c.rest then none
      else if endsPlain flow c.rest then some (read.reverse, broken, c)
      else readPlain flow indent fuel (x :: gap.reverse ++ read) [] false c.next

/-! Block scalars. -/

/-- What becomes of the line breaks at the end. -/
inductive Chomping where
  | strip
  | clip
  | keep
  deriving DecidableEq, Repr

def chomping? : Char → Option Chomping
  | '+' => some .keep
  | '-' => some .strip
  | _ => none

def blockIndent? (x : Char) : Option Nat := if '1' ≤ x ∧ x ≤ '9' then some (x.toNat - 48) else none

/-- How the block is to end, and its indentation below its parent if that is given. -/
def readHeader (c : Cursor) : Chomping × Option Nat × Cursor :=
  match c.head?.bind chomping?, c.head?.bind blockIndent? with
  | some how, _ =>
    match c.next.head?.bind blockIndent? with
    | some n => (how, some n, c.skip 2)
    | none => (how, none, c.next)
  | none, some n =>
    match c.next.head?.bind chomping? with
    | some how => (how, some n, c.skip 2)
    | none => (.clip, some n, c.next)
  | none, none => (.clip, none, c)

/-- Passes over spaces and a comment to the end of the line and over it. -/
def finishLine (c : Cursor) : Option Cursor :=
  let c := c.skipWhile isSpace
  let c := if c.head? = some '#' then c.skipWhile (!isBreak ·) else c
  if c.atLineEnd then some c.next else none

/-- Passes over empty lines and over the indentation of the next line, as far as it is known. Gives
the line breaks and the deepest column that was reached. -/
def readEmptyLines (indent : Option Nat) :
    (fuel : Nat) → (breaks : List Char) → (deepest : Nat) → Cursor →
      Option (List Char × Nat × Cursor)
  | 0, _, _, _ => none
  | fuel + 1, breaks, deepest, c =>
    let spaces := (c.rest.takeWhile (· == ' ')).length
    let c := c.skip ((indent.map fun n => min spaces (n - c.column)).getD spaces)
    let deepest := max deepest c.column
    if indent.all (c.column < ·) && c.head? = some '\t' then none
    else
      match c.rest with
      | x :: _ =>
        if isBreak x then readEmptyLines indent fuel (x :: breaks) deepest c.next
        else some (breaks.reverse, deepest, c)
      | [] => some (breaks.reverse, deepest, c)

/-- What was read of a block scalar: its text backwards, the break of its last line, the empty lines
behind that, and whether the last line started with white space. -/
structure BlockText where
  text : List Char
  lineBreak : List Char
  empty : List Char
  indented : Bool

/-- The text between the last line and the next one. Folding joins two lines that are not indented
further. -/
def BlockText.joint (b : BlockText) (folded indented : Bool) : List Char :=
  if folded && b.lineBreak == ['\n'] && !b.indented && !indented then
    if b.empty.isEmpty then [' '] else b.empty
  else b.lineBreak ++ b.empty

def readBlockLines (folded : Bool) (indent : Nat) :
    (fuel : Nat) → BlockText → Cursor → Option (BlockText × Cursor)
  | 0, _, _ => none
  | fuel + 1, b, c =>
    if c.column ≠ indent || c.rest.isEmpty then some (b, c)
    else do
      let indented := c.startsWith isSpace
      let (line, c) := c.span (!isBreak ·)
      let lineBreak := c.rest.take 1
      let (empty, _, c) ← readEmptyLines (some indent) (c.rest.length + 1) [] 0 c.next
      readBlockLines folded indent fuel
        ⟨line.reverse ++ (b.joint folded indented).reverse ++ b.text, lineBreak, empty, indented⟩ c

/-- Reads a block scalar from behind its indicator. -/
def readBlock (folded : Bool) (parentIndent : Int) (c : Cursor) : Option (List Char × Cursor) := do
  let fuel := c.rest.length + 1
  let (how, given, c) := readHeader c
  let c ← finishLine c
  let known := given.map fun n => n + parentIndent.toNat
  let (empty, deepest, c) ← readEmptyLines known fuel [] 0 c
  let indent := known.getD (max (max deepest (parentIndent + 1).toNat) 1)
  let (b, c) ← readBlockLines folded indent fuel ⟨[], [], empty, false⟩ c
  let ending := match how with
    | .strip => []
    | .clip => b.lineBreak
    | .keep => b.lineBreak ++ b.empty
  return (b.text.reverse ++ ending, c)

end SpringScaffold.Yaml
