import SpringScaffold.Yaml.Scalar
import SpringScaffold.Yaml.Token

/-! Reading what labels a node, its anchor and its tag, and the directives before a document. -/

namespace SpringScaffold.Yaml

/-! Anchors. -/

/-- What may touch the end of an anchor's name. -/
def endsAnchor : List Char → Bool
  | [] => true
  | x :: _ => isGapChar x || ['?', ':', ',', ']', '\x7d', '%', '@', Char.ofNat 0x60].contains x

/-- Reads the name of an anchor from behind its indicator. -/
def readAnchor (c : Cursor) : Option (String × Cursor) :=
  let (name, c) := c.span isWord
  if name.isEmpty || !endsAnchor c.rest then none else some (String.ofList name, c)

/-! Tags. -/

def isUriChar (verbatim : Bool) (x : Char) : Bool :=
  isWord x
    || [';', '/', '?', ':', '@', '&', '=', '+', '$', '.', '!', '~', '*', '\'', '(', ')',
      '%'].contains x
    || (verbatim && [',', '[', ']'].contains x)

/-- The octet of a percent sign and two digits. -/
def readOctet : List Char → Option (UInt8 × List Char)
  | '%' :: a :: b :: rest => (hexNumber? [a, b]).map fun n => (n.toUInt8, rest)
  | _ => none

/-- How many octets a character takes that starts with a given one. -/
def octetCount? (first : UInt8) : Option Nat :=
  if first < 0x80 then some 1
  else if first / 0x20 = 6 then some 2
  else if first / 0x10 = 14 then some 3
  else if first / 8 = 30 then some 4
  else none

def readFurtherOctets : (count : Nat) → List Char → Option (List UInt8 × List Char)
  | 0, cs => some ([], cs)
  | count + 1, cs => do
    let (x, cs) ← readOctet cs
    let (rest, cs) ← readFurtherOctets count cs
    if x / 0x40 = 2 then some (x :: rest, cs) else none

/-- The octets of one character. Only their number is looked at, so that they may spell none. -/
def readEncoded (cs : List Char) : Option (List UInt8 × List Char) := do
  let (x, cs) ← readOctet cs
  let (rest, cs) ← readFurtherOctets ((← octetCount? x) - 1) cs
  return (x :: rest, cs)

def decodeUri : (fuel : Nat) → List Char → Option (List UInt8)
  | _, [] => some []
  | 0, _ :: _ => none
  | fuel + 1, x :: rest =>
    if x = '%' then do
      let (octets, rest) ← readEncoded (x :: rest)
      return octets ++ (← decodeUri fuel rest)
    else (decodeUri fuel rest).map (x.toUInt8 :: ·)

def readUri (verbatim : Bool) (c : Cursor) : Option (List UInt8 × Cursor) := do
  let (written, c) := c.span (isUriChar verbatim)
  return (← decodeUri written.length written, c)

/-- Reads an exclamation mark, the word behind it, and the mark that may close it. -/
def readHandle (c : Cursor) : Option (List Char × Cursor) :=
  if c.head? = some '!' then
    let (name, c) := c.next.span isWord
    if c.head? = some '!' then some ('!' :: name ++ ['!'], c.next) else some ('!' :: name, c)
  else none

/-- Reads a tag as a handle and a suffix. A tag without a handle has the empty one, and so has the
mark alone. -/
def readTag (flow : Bool) (c : Cursor) : Option (Token × Cursor) := do
  let (handle, suffix, c) ←
    if c.next.head? = some '<' then do
      let (uri, c) ← readUri true (c.skip 2)
      if uri.isEmpty || c.head? ≠ some '>' then none else some ("", Tag.upToZero uri, c.next)
    else do
      let (handle, c) ← readHandle c
      let (uri, c) ← readUri false c
      if handle.length > 1 && handle.getLast? = some '!' then
        if uri.isEmpty then none else some (String.ofList handle, Tag.upToZero uri, c)
      else
        let suffix := Tag.upToZero ((handle.drop 1).map (·.toUInt8) ++ uri)
        some (if suffix.isEmpty then ("", [Tag.mark], c) else ("!", suffix, c))
  if c.atGap || (flow && c.head? = some ',') then some (.tag handle suffix, c) else none

/-! Directives. -/

def longestNumber : Nat := 9

def readNumber (c : Cursor) : Option (Nat × Cursor) :=
  let (digits, c) := c.span Char.isDigit
  if digits.isEmpty || digits.length > longestNumber then none
  else some (digits.foldl (fun n d => 10 * n + (d.toNat - 48)) 0, c)

def readVersion (c : Cursor) : Option (Token × Cursor) := do
  let (major, c) ← readNumber (c.skipWhile isSpace)
  if c.head? ≠ some '.' then none
  else
    let (minor, c) ← readNumber c.next
    return (.version major minor, c)

def readTagHandle (c : Cursor) : Option (Token × Cursor) := do
  let (handle, c) ← readHandle (c.skipWhile isSpace)
  if !(handle == ['!'] || (handle.length > 1 && handle.getLast? = some '!')) then none
  else if !c.startsWith isSpace then none
  else
    let (uri, c) ← readUri true (c.skipWhile isSpace)
    if uri.isEmpty || !c.atGap then none
    else some (.tagHandle (String.ofList handle) (Tag.upToZero uri), c)

/-- Reads a directive from its percent sign to the end of its line. -/
def readDirective (c : Cursor) : Option (Token × Cursor) := do
  let (name, c) := c.next.span isWord
  if !c.atGap then none
  else
    let (t, c) ←
      if name = "YAML".toList then readVersion c
      else if name = "TAG".toList then readTagHandle c
      else none
    return (t, ← finishLine c)

end SpringScaffold.Yaml
