import SpringScaffold.Yaml.Cursor
import SpringScaffold.Yaml.Plain
import SpringScaffold.Yaml.Token

/-! Writing values as YAML in block style. Every text is written so that it reads back as a text. -/

namespace SpringScaffold.Yaml

/-! Which style a text needs. -/

def isPrintable (c : Char) : Bool :=
  let n := c.toNat
  n == 10 || (0x20 ≤ n && n ≤ 0x7E) || (0xA0 ≤ n && n ≤ 0xFFFD && c != byteOrderMark) || 0x10000 ≤ n

def isLineBreak (c : Char) : Bool := isBreak c || c == '\r' || c == nextLine

/-- Some character of the first kind stands right before one of the second. -/
def hasPair (p q : Char → Bool) (cs : List Char) : Bool :=
  (cs.zip cs.tail).any fun (a, b) => p a && q b

/-- Line ends that follow a space, and characters that only an escape can show. -/
def needsEscapes (cs : List Char) : Bool :=
  cs.any (!isPrintable ·) || hasPair (· == ' ') isLineBreak cs

def allowsBlock (cs : List Char) : Bool := !needsEscapes cs && cs.getLast? != some ' '

def allowsSingleQuotes (cs : List Char) : Bool :=
  !needsEscapes cs && !hasPair isLineBreak (· == ' ') cs

/-- A space or the end. -/
def isApart : List Char → Bool
  | [] => true
  | c :: _ => c == ' '

/-- The first characters that would make something else of a plain text. -/
def startsOtherwise : List Char → Bool
  | [] => false
  | c :: rest =>
    ['#', ',', '[', ']', '\x7b', '\x7d', '&', '*', '!', '|', '>', '\'', '"', '%', '@',
        Char.ofNat 0x60].contains c
      || (['?', ':', '-'].contains c && isApart rest)
      || ['-', '-', '-'].isPrefixOf (c :: rest) || ['.', '.', '.'].isPrefixOf (c :: rest)

/-- A colon before a space or the end, or a number sign behind a space. -/
def breaksOff : List Char → Bool
  | [] => false
  | c :: rest =>
    (c == ':' && isApart rest) || (c == ' ' && rest.head? == some '#') || breaksOff rest

def allowsPlain (cs : List Char) : Bool :=
  !needsEscapes cs && !cs.any isLineBreak && cs.head? != some ' ' && cs.getLast? != some ' '
    && !startsOtherwise cs && !breaksOff cs

/-- Written plainly the text would denote something else. -/
def denotesOther (s : String) : Bool :=
  plainMeaning s != .text s || isPadded (unsignedPart s.toList)

def styleOf (s : String) : ScalarStyle :=
  let cs := s.toList
  if cs.contains '\n' then if allowsBlock cs then .literal else .doubleQuoted
  else if !denotesOther s && allowsPlain cs then .plain
  else if allowsSingleQuotes cs then .singleQuoted
  else .doubleQuoted

/-! Texts. -/

def spaces (n : Nat) : List Char := List.replicate n ' '

/-- Quotes are doubled. What follows a line end is indented. -/
def singleQuotedFrom (indent : Nat) : (fresh : Bool) → List Char → List Char
  | fresh, [] => if fresh then spaces indent else []
  | fresh, c :: rest =>
    if isBreak c then c :: singleQuotedFrom indent true rest
    else
      (if fresh then spaces indent else []) ++ (if c = '\'' then ['\'', '\''] else [c])
        ++ singleQuotedFrom indent false rest

def upperHexDigit (n : Nat) : Char := "0123456789ABCDEF".toList.getD n '0'

/-- The last `count` hexadecimal digits. -/
def hexDigits : (count : Nat) → Nat → List Char
  | 0, _ => []
  | count + 1, n => hexDigits count (n / 16) ++ [upperHexDigit (n % 16)]

def escapeCode (n : Nat) : List Char :=
  if n ≤ 0xFF then 'x' :: hexDigits 2 n
  else if n ≤ 0xFFFF then 'u' :: hexDigits 4 n
  else 'U' :: hexDigits 8 n

def shortEscapes : List (Nat × Char) :=
  [(0, '0'), (7, 'a'), (8, 'b'), (9, 't'), (10, 'n'), (11, 'v'), (12, 'f'), (13, 'r'), (27, 'e'),
    (0x22, '"'), (0x5C, '\\'), (0x85, 'N'), (0xA0, '_'), (0x2028, 'L'), (0x2029, 'P')]

def doubleQuotedChar (c : Char) : List Char :=
  if !isPrintable c || isLineBreak c || c == '"' || c == '\\' then
    match shortEscapes.lookup c.toNat with
    | some e => ['\\', e]
    | none => '\\' :: escapeCode c.toNat
  else [c]

/-- A digit where the text starts with white space, and a sign unless it ends in one line break. -/
def blockHints (cs : List Char) : List Char :=
  (if cs.head?.any fun c => c == ' ' || isBreak c then ['2'] else [])
    ++ match cs.reverse with
      | a :: b :: _ => if !isBreak a then ['-'] else if isBreak b then ['+'] else []
      | [a] => if isBreak a then ['+'] else ['-']
      | [] => ['-']

def blockLines (indent : Nat) : (fresh : Bool) → List Char → List Char
  | fresh, [] => if fresh then [] else ['\n']
  | fresh, c :: rest =>
    if isBreak c then c :: blockLines indent true rest
    else (if fresh then spaces indent else []) ++ c :: blockLines indent false rest

/-- A text and the line end behind it. -/
def writeText (indent : Nat) (s : String) : List Char :=
  let cs := s.toList
  match styleOf s with
  | .literal | .folded => '|' :: blockHints cs ++ '\n' :: blockLines indent true cs
  | .plain => cs ++ ['\n']
  | .singleQuoted => '\'' :: singleQuotedFrom indent false cs ++ ['\'', '\n']
  | .doubleQuoted => '"' :: cs.flatMap doubleQuotedChar ++ ['"', '\n']

def longestPlainKey : Nat := 128

/-- Such a key stands in front of its colon on one line. -/
def isSimpleKey (s : String) : Bool :=
  !s.toList.any isLineBreak && s.utf8ByteSize ≤ longestPlainKey

/-! Values. -/

def writeNumber : Number → String
  | .integer i => toString i
  | .float x => DecimalStyle.plain.write x

/-- What is no list and no mapping, or is empty, with the space before it and the line end. -/
def writeLeaf (indent : Nat) : Value → List Char
  | .null => " null\n".toList
  | .bool b => if b then " true\n".toList else " false\n".toList
  | .number n => ' ' :: (writeNumber n).toList ++ ['\n']
  | .text s => ' ' :: writeText (indent + 2) s
  | .list _ => " []\n".toList
  | .object _ => " \x7b\x7d\n".toList

mutual

/-- What follows the colon of a key that starts at `indent`. The items of a list are not indented
further. -/
def writeBehindKey (indent : Nat) : Value → List Char
  | .list (v :: rest) => '\n' :: spaces indent ++ writeItems indent (v :: rest)
  | .object (m :: rest) => '\n' :: spaces (indent + 2) ++ writeMembers (indent + 2) (m :: rest)
  | v => writeLeaf indent v
termination_by structural v => v

/-- What follows a mark of one character at `indent`. -/
def writeBehindMark (indent : Nat) : Value → List Char
  | .list (v :: rest) => ' ' :: writeItems (indent + 2) (v :: rest)
  | .object (m :: rest) => ' ' :: writeMembers (indent + 2) (m :: rest)
  | v => writeLeaf indent v
termination_by structural v => v

/-- The items of a list, the first where the line already stands. -/
def writeItems (indent : Nat) : List Value → List Char
  | [] => []
  | v :: rest =>
    '-' :: writeBehindMark indent v
      ++ (if rest.isEmpty then [] else spaces indent) ++ writeItems indent rest
termination_by structural l => l

def writeMembers (indent : Nat) : List (String × Value) → List Char
  | [] => []
  | m :: rest =>
    writeMember indent m ++ (if rest.isEmpty then [] else spaces indent) ++ writeMembers indent rest
termination_by structural l => l

def writeMember (indent : Nat) : String × Value → List Char
  | (key, v) =>
    if isSimpleKey key then (writeText indent key).dropLast ++ ':' :: writeBehindKey indent v
    else
      '?' :: ' ' :: writeText (indent + 2) key ++ spaces indent ++ ':' :: writeBehindMark indent v
termination_by structural m => m

end

/-- A mapping as a whole document. -/
def write (v : Value) : String :=
  String.ofList <| match v with
  | .object (m :: rest) => writeMembers 0 (m :: rest)
  | .list (v :: rest) => writeItems 0 (v :: rest)
  | v => (writeLeaf 0 v).drop 1

end SpringScaffold.Yaml
