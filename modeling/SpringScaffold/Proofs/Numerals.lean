import SpringScaffold.Json.Reader

/-! Integers of 64 bits are read as they were written. -/

namespace SpringScaffold.Json

/-- The digits of a number in decimal. -/
def decimal (n : Nat) : List Nat := (toString n).toList.map fun c => c.toNat - 48

/-- What the tree of an integer holds. -/
def Numeral.ofInt (i : Int) : Numeral := ⟨i < 0, decimal i.natAbs, [], none⟩

theorem Tree.ofValue_integer (i : Int) :
    Tree.ofValue (.number (.integer i)) = .number (.ofInt i) := rfl

/-! ### What digits denote -/

theorem le_foldl_digits (n : Nat) (ds : List Nat) : n ≤ ds.foldl (fun a d => 10 * a + d) n := by
  induction ds generalizing n with
  | nil => exact Nat.le_refl n
  | cons d rest ih =>
    have hnext := ih (10 * n + d)
    rw [List.foldl_cons]
    omega

/-- Digits are read to their end as long as the number that they denote fits. -/
theorem accumulate_of_lt {n : Nat} {ds : List Nat}
    (h : ds.foldl (fun a d => 10 * a + d) n < twoTo 64) :
    Numeral.accumulate n ds = (ds.foldl (fun a d => 10 * a + d) n, 0) := by
  induction ds generalizing n with
  | nil => rfl
  | cons d rest ih =>
    have hfits : 10 * n + d < twoTo 64 := Nat.lt_of_le_of_lt (le_foldl_digits _ rest) h
    rw [Numeral.accumulate, if_pos hfits]
    exact ih h

theorem foldl_decimal (n : Nat) : (decimal n).foldl (fun a d => 10 * a + d) 0 = n := by
  rw [decimal, List.foldl_map, Nat.toString_eq_repr, Nat.toList_repr]
  exact Nat.ofDigitChars_ten_toDigits

/-- The integers that are read as integers. -/
def IsLong (i : Int) : Prop := -(twoTo 63 : Int) ≤ i ∧ i < twoTo 64

theorem toNumber?_ofInt {i : Int} (h : IsLong i) :
    (Numeral.ofInt i).toNumber? = some (.integer i) := by
  obtain ⟨hlow, hhigh⟩ := h
  have hle : twoTo 63 < twoTo 64 := by decide
  have hread : Numeral.accumulate 0 (decimal i.natAbs) = (i.natAbs, 0) := by
    have hfits : (decimal i.natAbs).foldl (fun a d => 10 * a + d) 0 < twoTo 64 := by
      rw [foldl_decimal]
      omega
    rw [accumulate_of_lt hfits, foldl_decimal]
  simp only [Numeral.toNumber?, Numeral.ofInt, hread]
  simp only [decide_true, List.isEmpty_nil, Option.isNone_none, Bool.and_self, if_true]
  by_cases hneg : i < 0
  · have hsmall : (decide (i.natAbs = 0) || decide (i.natAbs > twoTo 63)) = false := by
      rw [Bool.or_eq_false_iff, decide_eq_false_iff_not, decide_eq_false_iff_not]
      omega
    have habs : -(i.natAbs : Int) = i := by omega
    rw [decide_eq_true hneg, hsmall, habs]
    rfl
  · have habs : (i.natAbs : Int) = i := by omega
    rw [decide_eq_false hneg, habs]
    rfl

/-! ### Reading the digits -/

theorem isDigit_of_mem_toString {n : Nat} {c : Char} (h : c ∈ (toString n).toList) :
    isDigit c = true := by
  rw [Nat.toString_eq_repr, Nat.toList_repr] at h
  have hdigit : c.isDigit = true := Nat.isDigit_of_mem_toDigits (by decide) (by decide) h
  simpa [isDigit, Char.isDigit, Char.le_def] using hdigit

theorem exists_digit (n : Nat) :
    ∃ c cs, (toString n).toList = c :: cs ∧ isDigit c = true := by
  cases h : (toString n).toList with
  | nil => simp [Nat.toString_eq_repr] at h
  | cons c cs => exact ⟨c, cs, rfl, isDigit_of_mem_toString (h ▸ List.mem_cons_self)⟩

/-- The digits of a number end where no digit follows. -/
theorem digits_toString (n : Nat) {rest : List Char} (h : ∀ c ∈ rest.head?, isDigit c = false) :
    digits ((toString n).toList ++ rest) = (decimal n, rest) := by
  have hall : ∀ c ∈ (toString n).toList, isDigit c = true := fun _ => isDigit_of_mem_toString
  have hstop : rest.takeWhile isDigit = [] ∧ rest.dropWhile isDigit = rest := by
    cases rest with
    | nil => exact ⟨rfl, rfl⟩
    | cons c rest => simp [h c rfl]
  rw [digits, List.takeWhile_append_of_pos hall, List.dropWhile_append_of_pos hall, hstop.1,
    hstop.2, List.append_nil]
  rfl

theorem decimal_ne_nil (n : Nat) : decimal n ≠ [] := by
  rw [decimal, Nat.toString_eq_repr, Nat.toList_repr]
  simp

/-- Only zero starts with a zero. -/
theorem head?_decimal (n : Nat) : (decimal n).head? = some 0 → n = 0 := by
  have hdecimal : ∀ n, decimal n = (Nat.toDigits 10 n).map fun c => c.toNat - 48 := fun n => by
    rw [decimal, Nat.toString_eq_repr, Nat.toList_repr]
  rw [hdecimal]
  induction n using Nat.base_induction 10 (by decide) with
  | single n hn =>
    rw [Nat.toDigits_of_lt_base hn]
    simp [Nat.toNat_digitChar_sub_48_of_lt_ten hn]
  | digit n d hd hn ih =>
    intro hhead
    rw [← Nat.toDigits_append_toDigits (by decide) hn hd, List.map_append, List.head?_append,
      List.head?_map] at hhead
    cases hn' : (Nat.toDigits 10 n).head? with
    | none => simp at hn'
    | some c =>
      rw [List.head?_map, hn'] at ih
      rw [hn'] at hhead
      have hzero := ih hhead
      omega

theorem length_decimal_zero : (decimal 0).length = 1 := by decide

/-- What may follow a number without being taken for a part of it. -/
def EndsNumber (rest : List Char) : Prop :=
  ∀ c ∈ rest.head?, isDigit c = false ∧ c ≠ '.' ∧ c ≠ 'e' ∧ c ≠ 'E'

theorem readUnsigned_toString (negative : Bool) (n : Nat) {rest : List Char}
    (h : EndsNumber rest) :
    readUnsigned negative ((toString n).toList ++ rest) =
      some (⟨negative, decimal n, [], none⟩, rest) := by
  have hzero : ¬ (decimal n = [] ∨ (decimal n).head? = some 0 ∧ (decimal n).length > 1) := by
    rintro (hnil | ⟨hhead, hlength⟩)
    · exact decimal_ne_nil n hnil
    · rw [head?_decimal n hhead, length_decimal_zero] at hlength
      omega
  have hends : readFraction rest = some ([], rest) ∧ readExponent rest = some (none, rest) := by
    cases rest with
    | nil => exact ⟨rfl, rfl⟩
    | cons c rest =>
      obtain ⟨-, hpoint, he, hE⟩ := h c rfl
      refine ⟨?_, by simp [readExponent, he, hE]⟩
      unfold readFraction
      split
      · next heq => exact absurd (List.cons.inj heq).1 hpoint
      · rfl
  rw [readUnsigned, digits_toString n fun c hc => (h c hc).1]
  simp [hzero, hends]

/-- An integer is read up to its last digit. -/
theorem readNumeral_toString (i : Int) {rest : List Char} (h : EndsNumber rest) :
    readNumeral ((toString i).toList ++ rest) = some (.ofInt i, rest) := by
  rw [Int.toString_eq_repr, Int.repr_eq_if]
  split
  · next hi =>
    have hread := readUnsigned_toString false i.toNat h
    rw [Nat.toString_eq_repr] at hread
    have hunsigned : readNumeral (i.toNat.repr.toList ++ rest) =
        readUnsigned false (i.toNat.repr.toList ++ rest) := by
      unfold readNumeral
      split
      · next heq =>
        obtain ⟨c, cs, hcs, hc⟩ := exists_digit i.toNat
        rw [← Nat.toString_eq_repr, hcs] at heq
        rw [(List.cons.inj heq).1] at hc
        cases hc
      · rfl
    have habs : i.natAbs = i.toNat := by omega
    have hneg : ¬ i < 0 := by omega
    rw [hunsigned, hread, Numeral.ofInt, habs]
    simp [hneg]
  · next hi =>
    have habs : i.natAbs = (-i).toNat := by omega
    have hneg : i < 0 := by omega
    have hread := readUnsigned_toString true (-i).toNat h
    rw [Nat.toString_eq_repr] at hread
    rw [String.toList_append]
    change readUnsigned true ((-i).toNat.repr.toList ++ rest) = _
    rw [hread, Numeral.ofInt, habs]
    simp [hneg]

/-- An integer starts with a digit or a minus sign. -/
theorem exists_digit_or_minus (i : Int) :
    ∃ c cs, (toString i).toList = c :: cs ∧ (isDigit c = true ∨ c = '-') := by
  rw [Int.toString_eq_repr, Int.repr_eq_if]
  split
  · obtain ⟨c, cs, hcs, hc⟩ := exists_digit i.toNat
    exact ⟨c, cs, hcs, .inl hc⟩
  · exact ⟨'-', _, by rw [String.toList_append]; rfl, .inr rfl⟩

end SpringScaffold.Json
