import SpringScaffold.Value

/-! Numbers of JSON texts and what they denote. -/

namespace SpringScaffold.Json

/-- A number as it is written. The digits of the exponent come with a flag for a minus sign. -/
structure Numeral where
  negative : Bool
  whole : List Nat
  fraction : List Nat
  exponent : Option (Bool × List Nat)
  deriving DecidableEq, Repr

namespace Numeral

/-- Reads digits as long as the number fits 64 bits. The count is of the digits left over. -/
def accumulate (n : Nat) : List Nat → Nat × Nat
  | [] => (n, 0)
  | d :: rest =>
    if 10 * n + d < twoTo 64 then accumulate (10 * n + d) rest else (n, rest.length + 1)

def powerOfTen (k : Nat) : Binary64 := (Binary64.ofScientific? false 1 k).getD (Binary64.zero false)

/-- Multiplies by `10 ^ e` in one rounding step, or in several where the power itself is too large
to be a floating-point number. -/
def shift (x : Binary64) (e : Int) : (steps : Nat) → Option Binary64
  | 0 => some x
  | steps + 1 =>
    if e.natAbs ≤ 308 then
      if 0 ≤ e then x.mul? (powerOfTen e.natAbs) else x.div? (powerOfTen e.natAbs)
    else if x.mantissa = 0 then some x
    else if 0 ≤ e then none
    else (x.div? (powerOfTen 308)).bind fun y => shift y (e + 308) steps

def greatestPower : Nat := 2147483647

def toBinary64? (n : Numeral) (significand : Nat) (e : Int) : Option Binary64 := do
  let x ← Binary64.ofRatio? false significand 1
  let y ← shift x e 4
  return ⟨n.negative, y.mantissa, y.exponent⟩

/-- The number that is denoted. Integers of 64 bits stay exact, all others become floating-point
numbers by one multiplication or division of their leading digits with a power of ten. Nothing is
denoted where that is beyond the greatest floating-point number. -/
def toNumber? (n : Numeral) : Option Number :=
  let (whole, dropped) := accumulate 0 n.whole
  if dropped = 0 && n.fraction.isEmpty && n.exponent.isNone then
    if !n.negative then some (.integer whole)
    else if whole = 0 || whole > twoTo 63 then
      (Binary64.ofRatio? true whole 1).map .float
    else some (.integer (-whole))
  else
    let (significand, unused) := accumulate whole n.fraction
    let start : Int := (dropped : Int) - (n.fraction.length - unused)
    match n.exponent with
    | none => (n.toBinary64? significand start).map .float
    | some (minus, digits) =>
      let power := digits.foldl (fun p d => 10 * p + d) 0
      if power > greatestPower then
        if significand ≠ 0 && !minus then none else some (.float (Binary64.zero n.negative))
      else
        let e := if minus then start - power else start + power
        (n.toBinary64? significand e).map .float

end Numeral

end SpringScaffold.Json
