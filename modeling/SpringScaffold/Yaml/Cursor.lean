/-! A place in a text, with its line and column. Every line of the text ends in one character. -/

namespace SpringScaffold.Yaml

def lineSeparator : Char := Char.ofNat 0x2028

def paragraphSeparator : Char := Char.ofNat 0x2029

def nextLine : Char := Char.ofNat 0x85

def byteOrderMark : Char := Char.ofNat 0xFEFF

/-- The characters that a text may hold. -/
def isAllowed (c : Char) : Bool :=
  let n := c.toNat
  n == 9 || n == 10 || n == 13 || (0x20 ≤ n && n ≤ 0x7E) || n == 0x85 || (0xA0 ≤ n && n ≤ 0xD7FF)
    || (0xE000 ≤ n && n ≤ 0xFFFD) || 0x10000 ≤ n

/-- Every line break becomes one line feed. The two separators stay as they are. -/
def unifyBreaks : List Char → List Char
  | [] => []
  | '\r' :: '\n' :: rest => '\n' :: unifyBreaks rest
  | c :: rest => (if c = '\r' || c = nextLine then '\n' else c) :: unifyBreaks rest

def isSpace (c : Char) : Bool := c == ' ' || c == '\t'

def isBreak (c : Char) : Bool := c == '\n' || c == lineSeparator || c == paragraphSeparator

/-- The characters of names, among them the hyphen and the underscore. -/
def isWord (c : Char) : Bool := c.isAlphanum || c == '-' || c == '_'

/-- `index` counts the octets before the place, `column` the characters before it in its line. -/
structure Cursor where
  rest : List Char
  index : Nat
  line : Nat
  column : Nat
  deriving Repr

namespace Cursor

def start (cs : List Char) : Cursor := ⟨cs, 0, 0, 0⟩

/-- Behind the first character. -/
def next (c : Cursor) : Cursor :=
  match c.rest with
  | [] => c
  | x :: rest =>
    if isBreak x then ⟨rest, c.index + x.utf8Size, c.line + 1, 0⟩
    else ⟨rest, c.index + x.utf8Size, c.line, c.column + 1⟩

def skip : Nat → Cursor → Cursor
  | 0, c => c
  | n + 1, c => skip n c.next

/-- The characters of the kind up to the first other one, and the place behind them. -/
def span (keep : Char → Bool) (c : Cursor) : List Char × Cursor :=
  let taken := c.rest.takeWhile keep
  (taken, c.skip taken.length)

def skipWhile (keep : Char → Bool) (c : Cursor) : Cursor := (c.span keep).2

def head? (c : Cursor) : Option Char := c.rest.head?

def startsWith (c : Cursor) (p : Char → Bool) : Bool := c.rest.head?.any p

/-- A space, a line break or the end stands there. -/
def isGap : List Char → Bool
  | [] => true
  | x :: _ => isSpace x || isBreak x

/-- A line break or the end stands there. -/
def isLineEnd : List Char → Bool
  | [] => true
  | x :: _ => isBreak x

def atGap (c : Cursor) : Bool := isGap c.rest

def atLineEnd (c : Cursor) : Bool := isLineEnd c.rest

/-- A gap follows the first character. -/
def gapFollows (c : Cursor) : Bool := isGap (c.rest.drop 1)

/-- The line starts with a mark of three characters and a gap. -/
def atMark (c : Cursor) (mark : List Char) : Bool :=
  c.column == 0 && mark.isPrefixOf c.rest && isGap (c.rest.drop 3)

def atDocumentStart (c : Cursor) : Bool := c.atMark ['-', '-', '-']

def atDocumentEnd (c : Cursor) : Bool := c.atMark ['.', '.', '.']

def atDocumentMark (c : Cursor) : Bool := c.atDocumentStart || c.atDocumentEnd

end Cursor

end SpringScaffold.Yaml
