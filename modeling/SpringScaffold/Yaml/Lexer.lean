import SpringScaffold.Yaml.Label

/-! From a text to its tokens. A node may turn out to be a key only at the colon behind it, so its
place among the tokens is remembered until then. -/

namespace SpringScaffold.Yaml

/-- A place among the tokens where a key may start. A key that opens a line of its block is the only
thing that can stand there. -/
structure PendingKey where
  required : Bool
  position : Nat
  index : Nat
  line : Nat
  column : Nat
  deriving Repr

/-- The state between two tokens. There is one pending key for every level of brackets, the outer
ones in `outer`. -/
structure Lexer where
  here : Cursor
  tokens : Array Token
  indent : Int
  indents : List Int
  keyAllowed : Bool
  key : Option PendingKey
  outer : List (Option PendingKey)

namespace Lexer

def start (cs : List Char) : Lexer := ⟨Cursor.start cs, #[], -1, [], true, none, []⟩

def inBrackets (l : Lexer) : Bool := !l.outer.isEmpty

def emit (l : Lexer) (t : Token) : Lexer := { l with tokens := l.tokens.push t }

def allow (l : Lexer) (keyAllowed : Bool) : Lexer := { l with keyAllowed }

def goTo (l : Lexer) (c : Cursor) : Lexer := { l with here := c }

/-- Passes over white space, comments and line ends. -/
def skipGap : (fuel : Nat) → Lexer → Lexer
  | 0, l => l
  | fuel + 1, l =>
    let c := if l.here.column = 0 && l.here.head? = some byteOrderMark then l.here.next else l.here
    let c := c.skipWhile fun x => x == ' ' || (x == '\t' && (l.inBrackets || !l.keyAllowed))
    let c := if c.head? = some '#' then c.skipWhile (!isBreak ·) else c
    if c.startsWith isBreak then skipGap fuel ⟨c.next, l.tokens, l.indent, l.indents,
      l.keyAllowed || !l.inBrackets, l.key, l.outer⟩
    else l.goTo c

def longestKey : Nat := 1024

/-- A key does not reach over a line end, nor very far. -/
def isStale (c : Cursor) (k : PendingKey) : Bool :=
  k.line < c.line || k.index + longestKey < c.index

def dropKey : Option PendingKey → Option (Option PendingKey)
  | some k => if k.required then none else some none
  | none => some none

def removeKey (l : Lexer) : Option Lexer := (dropKey l.key).map fun key => { l with key }

/-- Remembers that a key may start here. -/
def saveKey (l : Lexer) : Option Lexer :=
  if l.keyAllowed then do
    let l ← l.removeKey
    let c := l.here
    return { l with
      key :=
        some ⟨!l.inBrackets && l.indent == c.column, l.tokens.size, c.index, c.line, c.column⟩ }
  else some l

/-- Opens a block at a column that is deeper than the current one. -/
def openBlock (l : Lexer) (column position : Nat) (t : Token) : Lexer :=
  if !l.inBrackets && l.indent < column then
    { l with
      tokens := l.tokens.insertIdxIfInBounds position t
      indent := column
      indents := l.indent :: l.indents }
  else l

def openBlockHere (l : Lexer) (t : Token) : Lexer := l.openBlock l.here.column l.tokens.size t

def closeBlocksUpTo (column : Int) (indent : Int) (tokens : Array Token) :
    List Int → Int × Array Token × List Int
  | [] => (indent, tokens, [])
  | i :: rest =>
    if indent > column then closeBlocksUpTo column i (tokens.push .blockEnd) rest
    else (indent, tokens, i :: rest)

/-- Closes the blocks that are deeper than a column. -/
def closeBlocks (l : Lexer) (column : Int) : Lexer :=
  if l.inBrackets then l
  else
    let (indent, tokens, indents) := closeBlocksUpTo column l.indent l.tokens l.indents
    { l with indent, tokens, indents }

/-- Takes one character as a token of its own. -/
def take (l : Lexer) (t : Token) (keyAllowed : Bool) : Lexer :=
  ((l.goTo l.here.next).emit t).allow keyAllowed

def readDirectiveLine (l : Lexer) : Option Lexer := do
  let l ← (l.closeBlocks (-1)).removeKey
  let (t, c) ← readDirective l.here
  return ((l.goTo c).emit t).allow false

def readDocumentMark (l : Lexer) (t : Token) : Option Lexer := do
  let l ← (l.closeBlocks (-1)).removeKey
  return ((l.goTo (l.here.skip 3)).emit t).allow false

def openBracket (l : Lexer) (t : Token) : Option Lexer := do
  let l ← l.saveKey
  return { l.take t true with key := none, outer := l.key :: l.outer }

def closeBracket (l : Lexer) (t : Token) : Option Lexer := do
  let l ← l.removeKey
  let l := l.take t false
  return match l.outer with
  | key :: outer => { l with key, outer }
  | [] => l

def readFlowEntry (l : Lexer) : Option Lexer := do
  let l ← l.removeKey
  return l.take .flowEntry true

def readBlockEntry (l : Lexer) : Option Lexer :=
  if !l.inBrackets && !l.keyAllowed then none
  else do
    let l ← (l.openBlockHere .blockSequenceStart).removeKey
    return l.take .blockEntry true

def readKey (l : Lexer) : Option Lexer :=
  if !l.inBrackets && !l.keyAllowed then none
  else do
    let l ← (l.openBlockHere .blockMappingStart).removeKey
    return l.take .key !l.inBrackets

/-- A key that the colon is too far from is none. -/
def readValue (l : Lexer) : Option Lexer := do
  let l ← if l.key.any (isStale l.here) then l.removeKey else some l
  match l.key with
  | some k =>
    let l := { l with tokens := l.tokens.insertIdxIfInBounds k.position .key, key := none }
    return (l.openBlock k.column k.position .blockMappingStart).take .value false
  | none =>
    if !l.inBrackets && !l.keyAllowed then none
    else return (l.openBlockHere .blockMappingStart).take .value !l.inBrackets

def readLabel (l : Lexer) (t : String → Token) : Option Lexer := do
  let l ← l.saveKey
  let (name, c) ← readAnchor l.here.next
  return ((l.goTo c).emit (t name)).allow false

def readTagToken (l : Lexer) : Option Lexer := do
  let l ← l.saveKey
  let (t, c) ← readTag l.inBrackets l.here
  return ((l.goTo c).emit t).allow false

def emitScalar (l : Lexer) (text : List Char) (style : ScalarStyle) (c : Cursor) : Lexer :=
  (l.goTo c).emit (.scalar (String.ofList text) style)

def readBlockScalar (l : Lexer) (style : ScalarStyle) : Option Lexer := do
  let l ← l.removeKey
  let (text, c) ← readBlock (style == .folded) l.indent l.here.next
  return (l.emitScalar text style c).allow true

def readQuotedScalar (l : Lexer) (quote : Char) (style : ScalarStyle) : Option Lexer := do
  let l ← l.saveKey
  let (text, c) ← readQuoted quote (l.here.rest.length + 1) [] l.here.next
  return (l.emitScalar text style c).allow false

def readPlainScalar (l : Lexer) : Option Lexer := do
  let l ← l.saveKey
  let (text, broken, c) ←
    readPlain l.inBrackets (l.indent + 1) (l.here.rest.length + 1) [] [] false l.here
  return (l.emitScalar text .plain c).allow broken

/-- The characters that a plain scalar does not start with. -/
def isIndicator (x : Char) : Bool :=
  ['-', '?', ':', ',', '[', ']', '\x7b', '\x7d', '#', '&', '*', '!', '|', '>', '\'', '"', '%', '@',
    Char.ofNat 0x60].contains x

/-- A hyphen, and in blocks a question mark or a colon, starts a plain scalar where no gap
follows. -/
def startsPlain (l : Lexer) (x : Char) : Bool :=
  !(isGapChar x || isIndicator x)
    || (x == '-' && !(l.here.rest.drop 1).head?.any isSpace)
    || (!l.inBrackets && (x == '?' || x == ':') && !l.here.gapFollows)

/-- Reads the token that starts with a given character. -/
def readToken (l : Lexer) (x : Char) : Option Lexer :=
  let c := l.here
  if c.column = 0 && x = '%' then l.readDirectiveLine
  else if c.atDocumentStart then l.readDocumentMark .documentStart
  else if c.atDocumentEnd then l.readDocumentMark .documentEnd
  else if x = '[' then l.openBracket .flowSequenceStart
  else if x = '\x7b' then l.openBracket .flowMappingStart
  else if x = ']' then l.closeBracket .flowSequenceEnd
  else if x = '\x7d' then l.closeBracket .flowMappingEnd
  else if x = ',' then l.readFlowEntry
  else if x = '-' && c.gapFollows then l.readBlockEntry
  else if x = '?' && (l.inBrackets || c.gapFollows) then l.readKey
  else if x = ':' && (l.inBrackets || c.gapFollows) then l.readValue
  else if x = '*' then l.readLabel .alias
  else if x = '&' then l.readLabel .anchor
  else if x = '!' then l.readTagToken
  else if x = '|' && !l.inBrackets then l.readBlockScalar .literal
  else if x = '>' && !l.inBrackets then l.readBlockScalar .folded
  else if x = '\'' then l.readQuotedScalar '\'' .singleQuoted
  else if x = '"' then l.readQuotedScalar '"' .doubleQuoted
  else if l.startsPlain x then l.readPlainScalar
  else none

/-- Closes what is open at the end of the text. -/
def finish (l : Lexer) : Option Lexer := (l.closeBlocks (-1)).removeKey

/-- Reads tokens up to the end of the text. Every token takes a character at least. -/
def run : (fuel : Nat) → Lexer → Option Lexer
  | 0, _ => none
  | fuel + 1, l => do
    let l := l.skipGap (fuel + 1)
    let l := l.closeBlocks l.here.column
    match l.here.head? with
    | none => l.finish
    | some x =>
      let l ← l.readToken x
      run fuel l

end Lexer

/-- The tokens of a text, if it has any meaning at all. -/
def tokens? (s : String) : Option (List Token) :=
  if s.toList.all isAllowed then
    let cs := unifyBreaks s.toList
    (Lexer.run (cs.length + 2) (Lexer.start cs)).map (·.tokens.toList)
  else none

end SpringScaffold.Yaml
