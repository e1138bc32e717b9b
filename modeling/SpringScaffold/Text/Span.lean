/-! Tables of characters: evenly spaced runs of code points, and shifts of such runs. -/

namespace SpringScaffold.Text

/-- The code points `lo, lo + step, …` up to and including `hi`. -/
structure Span where
  lo : Nat
  hi : Nat
  step : Nat
  deriving Repr, DecidableEq

def Span.contains (s : Span) (n : Nat) : Bool :=
  s.lo ≤ n && n ≤ s.hi && (n - s.lo) % s.step == 0

/-- A run whose members all map to the code point `offset` away. -/
structure Shift where
  lo : Nat
  hi : Nat
  step : Nat
  offset : Int
  deriving Repr, DecidableEq

def Shift.toSpan (s : Shift) : Span := ⟨s.lo, s.hi, s.step⟩

/-- The image of `n` under the first run that holds it, or `n` itself. -/
def Shift.apply (table : List Shift) (n : Nat) : Nat :=
  match table.find? (·.toSpan.contains n) with
  | some s => (n + s.offset).toNat
  | none => n

def Span.within (table : List Span) (n : Nat) : Bool := table.any (·.contains n)

theorem Span.contains_bounds {s : Span} {n : Nat} (h : s.contains n = true) :
    s.lo ≤ n ∧ n ≤ s.hi := by
  simp [Span.contains] at h
  exact h.1

end SpringScaffold.Text
