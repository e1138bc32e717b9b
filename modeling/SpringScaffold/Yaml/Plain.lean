import SpringScaffold.Json.Reader
import SpringScaffold.Mismatch

/-! What plain scalars denote. -/

namespace SpringScaffold.Yaml

def isNull (s : String) : Bool := ["null", "Null", "NULL", "~"].contains s

def bool? (s : String) : Option Bool :=
  if ["true", "True", "TRUE"].contains s then some true
  else if ["false", "False", "FALSE"].contains s then some false
  else none

/-- The number that the digits of a radix denote. -/
def natural? (radix : Nat) (cs : List Char) : Option Nat :=
  if cs.isEmpty then none
  else cs.foldlM (fun n c => do
    let d ← Json.hexValue? c
    if d < radix then some (radix * n + d) else none) 0

/-- Digits with a zero in front are no number. -/
def isPadded : List Char → Bool
  | '0' :: c :: rest => (c :: rest).all Char.isDigit
  | _ => false

def unsigned? (cs : List Char) : Option Nat :=
  match cs with
  | '0' :: 'x' :: rest => natural? 16 rest
  | '0' :: 'o' :: rest => natural? 8 rest
  | '0' :: 'b' :: rest => natural? 2 rest
  | cs => if isPadded cs then none else natural? 10 cs

/-- Integers up to 128 bits, told apart by whether they fit 64. -/
def sized? (i : Int) : Option Found :=
  if -(twoTo 63 : Int) ≤ i ∧ i < twoTo 64 then some (.integer i)
  else if -(twoTo 127 : Int) ≤ i ∧ i < twoTo 128 then some (.wide i)
  else none

def integer? (s : String) : Option Found := do
  let i ← match s.toList with
    | '+' :: rest => (unsigned? rest).map Int.ofNat
    | '-' :: rest => (unsigned? rest).map (- ·)
    | cs => (unsigned? cs).map Int.ofNat
  sized? i

def readExponent : List Char → Option Int
  | [] => some 0
  | c :: rest =>
    if c = 'e' || c = 'E' then
      let (minus, rest) := Json.readSign rest
      (natural? 10 rest).map fun n => if minus then -n else n
    else none

/-- Digits with a point among them or at either end, and an exponent that may be missing. -/
def decimal? (negative : Bool) (cs : List Char) : Option Binary64 := do
  let (whole, rest) := (cs.takeWhile Char.isDigit, cs.dropWhile Char.isDigit)
  let (fraction, rest) := match rest with
    | '.' :: rest => (rest.takeWhile Char.isDigit, rest.dropWhile Char.isDigit)
    | rest => ([], rest)
  let e ← readExponent rest
  let digits ← natural? 10 (whole ++ fraction)
  Binary64.ofScientific? negative digits (e - fraction.length)

def isInfinity (cs : List Char) : Bool :=
  [".inf", ".Inf", ".INF"].contains (String.ofList cs)

def isNotANumber (s : String) : Bool := [".nan", ".NaN", ".NAN"].contains s

def float? (s : String) : Option Found :=
  match s.toList with
  | '+' :: rest =>
    if isInfinity rest then some (.infinity false) else (decimal? false rest).map .float
  | '-' :: rest =>
    if isInfinity rest then some (.infinity true) else (decimal? true rest).map .float
  | cs =>
    if isInfinity cs then some (.infinity false)
    else if isNotANumber s then some .notANumber
    else (decimal? false cs).map .float

/-- The text behind a sign, if there is one. -/
def unsignedPart : List Char → List Char
  | '+' :: rest | '-' :: rest => rest
  | cs => cs

def plainMeaning (s : String) : Found :=
  if s = "" || isNull s then .null
  else
    match bool? s with
    | some b => .bool b
    | none =>
      match integer? s with
      | some i => i
      | none =>
        if isPadded (unsignedPart s.toList) then .text s
        else (float? s).getD (.text s)

end SpringScaffold.Yaml
