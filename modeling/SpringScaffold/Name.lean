import SpringScaffold.Text.LetterCase
import SpringScaffold.Text.Runs

/-! Names and their casings. A name is sanitized and then cut into words, at everything that is
neither letter nor number and at the humps of its capitals, and each casing joins the words in its
own way. -/

namespace SpringScaffold

open Text

/-- A name as it stands in a document. Its casings are functions of this text. -/
structure Name where
  written : String
  deriving Repr, DecidableEq, Inhabited

namespace Name

/-- The last letter case seen in the word that is being read. -/
inductive Hump where
  | boundary
  | lower
  | upper
  deriving Repr, DecidableEq

def Hump.next (h : Hump) (c : Char) : Hump :=
  if isLowercase c then .lower else if isUppercase c then .upper else h

/-- Cuts a run at its humps: after a small letter before a capital, and before the last capital of a
row that a small letter follows. `word` holds the current word, last character first. -/
def humps : Hump → (word : List Char) → List Char → List (List Char)
  | _, [], [] => []
  | _, word, [] => [word.reverse]
  | _, word, [c] => [(c :: word).reverse]
  | h, word, c :: d :: rest =>
    if h.next c = .lower && isUppercase d then
      (c :: word).reverse :: humps .boundary [] (d :: rest)
    else if h = .upper && isUppercase c && isLowercase d then
      word.reverse :: humps .boundary [c] (d :: rest)
    else humps (h.next c) (c :: word) (d :: rest)

/-- Reads on behind `result`, last character first: letters and numbers stay, an underscore stands
for what was between them, and another one in front of a digit at the very start. -/
def sanitizeFrom : (result : List Char) → (separated : Bool) → List Char → List Char
  | result, _, [] => result.reverse
  | result, separated, c :: rest =>
    if isAlphanumeric c then
      let guarded := if result.isEmpty && isAsciiDigit c then '_' :: result else result
      let joined := if separated && !guarded.isEmpty then '_' :: guarded else guarded
      sanitizeFrom (c :: joined) false rest
    else sanitizeFrom result true rest

/-- The text as an identifier. A text without letters and numbers is `unnamed`. -/
def sanitize (cs : List Char) : List Char :=
  match sanitizeFrom [] false cs with
  | [] => "unnamed".toList
  | sanitized => sanitized

/-- The words of the sanitized text. -/
def wordsOf (cs : List Char) : List (List Char) :=
  (runs isAlphanumeric (sanitize cs)).flatMap (humps .boundary [])

/-- Small letters throughout. A capital sigma at the end of the word is the final one. -/
def lowerWord : List Char → List Char
  | [] => []
  | ['Σ'] => ['ς']
  | c :: rest => lowerChar c ++ lowerWord rest

def upperWord (w : List Char) : List Char := w.flatMap upperChar

def capitalizeWord : List Char → List Char
  | [] => []
  | c :: rest => upperChar c ++ lowerWord rest

def snakeOf (cs : List Char) : List Char := ['_'].intercalate ((wordsOf cs).map lowerWord)

def shoutyOf (cs : List Char) : List Char := ['_'].intercalate ((wordsOf cs).map upperWord)

def pascalOf (cs : List Char) : List Char := (wordsOf cs).flatMap capitalizeWord

/-- Camel case before reserved words are looked at. -/
def camelOf (cs : List Char) : List Char :=
  match wordsOf cs with
  | [] => []
  | w :: ws => lowerWord w ++ ws.flatMap capitalizeWord

/-- Words that Java does not take as an identifier. -/
def reserved : List String := [
  "abstract", "assert", "boolean", "break", "byte", "case", "catch", "char", "class", "const",
  "continue", "default", "do", "double", "else", "enum", "extends", "final", "finally", "float",
  "for", "goto", "if", "implements", "import", "instanceof", "int", "interface", "long",
  "native", "new", "package", "private", "protected", "public", "return", "short", "static",
  "strictfp", "super", "switch", "synchronized", "this", "throw", "throws", "transient", "try",
  "void", "volatile", "while", "true", "false", "null", "record", "var", "yield"]

def escapeReserved (word : String) : String :=
  if reserved.contains word then "_" ++ word else word

def snake (n : Name) : String := String.ofList (snakeOf n.written.toList)

def shouty (n : Name) : String := String.ofList (shoutyOf n.written.toList)

def pascal (n : Name) : String := String.ofList (pascalOf n.written.toList)

def camel (n : Name) : String := escapeReserved (String.ofList (camelOf n.written.toList))

end Name

end SpringScaffold
