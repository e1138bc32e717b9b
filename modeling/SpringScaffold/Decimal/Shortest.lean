import SpringScaffold.Binary64

/-! The fewest decimal digits that read back as the same floating-point number, and of those the
nearest to it. -/

namespace SpringScaffold

/-- The number `digits * 10 ^ exponent`. -/
structure Decimal where
  digits : Nat
  exponent : Int
  deriving DecidableEq, Repr, Inhabited

namespace Decimal

def stripZeros : (fuel : Nat) → Decimal → Decimal
  | 0, d => d
  | fuel + 1, d =>
    if d.digits ≠ 0 && d.digits % 10 == 0 then stripZeros fuel ⟨d.digits / 10, d.exponent + 1⟩
    else d

/-- The magnitude of a number in quarters of its last place, with the two ends of the interval that
rounds to it. An end belongs to the interval when the mantissa is even. -/
structure Interval where
  low : Nat
  mid : Nat
  high : Nat
  exponent : Int
  closed : Bool

def Interval.of (x : Binary64) : Interval :=
  let narrow := x.mantissa == twoTo 52 && x.exponent > Binary64.leastExponent
  ⟨4 * x.mantissa - (if narrow then 1 else 2), 4 * x.mantissa, 4 * x.mantissa + 2, x.exponent - 2,
    x.mantissa % 2 == 0⟩

/-- Brings `k * 10 ^ t` and `m * 2 ^ s` to one denominator. -/
def common (k : Nat) (t : Int) (m : Nat) (s : Int) : Nat × Nat :=
  (k * tenTo t.toNat * twoTo (-s).toNat, m * twoTo s.toNat * tenTo (-t).toNat)

/-- The power of ten of the leading digit. -/
def Interval.magnitude (i : Interval) : Int :=
  let b : Int := i.mid.log2 + i.exponent
  let guess := (b * 30103) / 100000
  let reaches (t : Int) : Bool :=
    let (p, v) := common 1 t i.mid i.exponent
    p ≤ v
  if reaches (guess + 1) then guess + 1 else if reaches guess then guess else guess - 1

/-- The nearest number of the grid of step `10 ^ t` that rounds back, if there is one. -/
def Interval.onGrid (i : Interval) (t : Int) : Option Nat :=
  let (unit, v) := common 1 t i.mid i.exponent
  let k := v / unit
  let below (a b : Nat) : Bool := if i.closed then a ≤ b else a < b
  let (kLow, low) := common k t i.low i.exponent
  let (kHigh, high) := common (k + 1) t i.high i.exponent
  match below low kLow, below kHigh high with
  | true, true =>
    let down := v - k * unit
    let up := (k + 1) * unit - v
    some (if down < up || (down == up && k % 2 == 0) then k else k + 1)
  | true, false => some k
  | false, true => some (k + 1)
  | false, false => none

def Interval.search (i : Interval) (top : Int) : (tries : Nat) → (count : Nat) → Decimal
  | 0, count => ⟨i.mid, top - count⟩
  | tries + 1, count =>
    let t := top - count
    match i.onGrid t with
    | some k => stripZeros 20 ⟨k, t⟩
    | none => i.search top tries (count + 1)

def shortest (x : Binary64) : Decimal :=
  if x.mantissa = 0 then ⟨0, 0⟩
  else
    let i := Interval.of x
    i.search i.magnitude 18 0

end Decimal

end SpringScaffold
