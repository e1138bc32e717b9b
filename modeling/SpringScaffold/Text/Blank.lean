/-! White space: trimming it at both ends, and collapsing each stretch of it to one space. -/

namespace SpringScaffold.Text

/-- White space of every script. The zero width space and the byte order mark are not among it. -/
def isBlank (c : Char) : Bool :=
  let n := c.toNat
  (9 ≤ n && n ≤ 13) || n == 0x20 || n == 0x85 || n == 0xA0 || n == 0x1680
    || (0x2000 ≤ n && n ≤ 0x200A) || n == 0x2028 || n == 0x2029 || n == 0x202F || n == 0x205F
    || n == 0x3000

def trimStart (cs : List Char) : List Char := cs.dropWhile isBlank

def trimEnd (cs : List Char) : List Char := (cs.reverse.dropWhile isBlank).reverse

def trim (cs : List Char) : List Char := trimEnd (trimStart cs)

/-- `inBlank` says that the character before was white space. -/
def collapseFrom : (inBlank : Bool) → List Char → List Char
  | _, [] => []
  | inBlank, c :: rest =>
    if isBlank c then
      if inBlank then collapseFrom true rest else ' ' :: collapseFrom true rest
    else c :: collapseFrom false rest

/-- Each stretch of white space becomes one space. -/
def collapse (cs : List Char) : List Char := collapseFrom false cs

end SpringScaffold.Text
