import SpringScaffold.Proofs.Words

/-! Signs that no casing of a name brings in. The words of a name are letters and numbers, and no
letter becomes a slash, an underscore or a line feed in another case. So the Pascal case of a name
can stand in a path and inside a line (`Name.notMem_pascal`), and the underscores between words in
capitals are no part of the words (`Name.notMem_upperWord`). -/

namespace SpringScaffold

namespace Text

theorem ofNat_ne {mark : Char} (hmark : 0 < mark.toNat) {n : Nat} (h : n ≠ mark.toNat) :
    Char.ofNat n ≠ mark := by
  intro he
  by_cases hn : n.isValidChar
  · have htoNat : (Char.ofNat n).toNat = n := by
      rw [Char.ofNat, dif_pos hn]
      rfl
    rw [he] at htoNat
    exact h htoNat.symm
  · rw [Char.ofNat, dif_neg hn] at he
    exact absurd (he ▸ hmark) (by decide)

theorem toNat_ne {c mark : Char} (h : c ≠ mark) : c.toNat ≠ mark.toNat := by
  intro he
  rw [← Char.ofNat_toNat c, he, Char.ofNat_toNat] at h
  exact h rfl

/-- The code point is none that the run of the table leads to. -/
def Shift.Misses (s : Shift) (n : Nat) : Prop := s.hi + s.offset < n ∨ n < s.lo + s.offset

instance (s : Shift) (n : Nat) : Decidable (s.Misses n) :=
  inferInstanceAs (Decidable (s.hi + s.offset < n ∨ n < s.lo + s.offset))

theorem Shift.apply_ne {table : List Shift} {mark : Nat} (hmark : 0 < mark)
    (htable : ∀ s ∈ table, s.Misses mark) {n : Nat} (hn : n ≠ mark) :
    Shift.apply table n ≠ mark := by
  unfold Shift.apply
  split
  · next s hs =>
    obtain ⟨hlo, hhi⟩ : s.lo ≤ n ∧ n ≤ s.hi := by
      have hcontains := List.find?_some hs
      exact Span.contains_bounds hcontains
    have hmisses := htable s (List.mem_of_find?_eq_some hs)
    unfold Shift.Misses at hmisses
    omega
  · exact hn

/-- A sign that is no letter and no number, and that no letter becomes in another case. -/
structure IsSign (mark : Char) : Prop where
  other : isAlphanumeric mark = false
  positive : 0 < mark.toNat
  notCapital : mark.toNat < 65 ∨ 90 < mark.toNat
  notSmall : mark.toNat < 97 ∨ 122 < mark.toNat
  upper : ∀ s ∈ upperShifts, s.Misses mark.toNat
  lower : ∀ s ∈ lowerShifts, s.Misses mark.toNat
  upperExpanded : ∀ e ∈ upperExpansions, mark ∉ e.2.map Char.ofNat
  lowerExpanded : mark ∉ ['i', Char.ofNat 0x307]
  finalSigma : mark ≠ 'ς'

instance (mark : Char) : Decidable (IsSign mark) :=
  decidable_of_iff
    (isAlphanumeric mark = false ∧ 0 < mark.toNat ∧ (mark.toNat < 65 ∨ 90 < mark.toNat) ∧
      (mark.toNat < 97 ∨ 122 < mark.toNat) ∧ (∀ s ∈ upperShifts, s.Misses mark.toNat) ∧
      (∀ s ∈ lowerShifts, s.Misses mark.toNat) ∧
      (∀ e ∈ upperExpansions, mark ∉ e.2.map Char.ofNat) ∧ mark ∉ ['i', Char.ofNat 0x307] ∧
      mark ≠ 'ς')
    ⟨fun ⟨other, positive, notCapital, notSmall, upper, lower, upperExpanded, lowerExpanded,
        finalSigma⟩ =>
      { other, positive, notCapital, notSmall, upper, lower, upperExpanded, lowerExpanded,
        finalSigma },
    fun h => ⟨h.other, h.positive, h.notCapital, h.notSmall, h.upper, h.lower, h.upperExpanded,
      h.lowerExpanded, h.finalSigma⟩⟩

theorem isSign_slash : IsSign '/' := by decide +kernel

theorem isSign_underscore : IsSign '_' := by decide +kernel

theorem isSign_lineFeed : IsSign '\n' := by decide +kernel

theorem asciiLower_bounds {c : Char} (h : isAsciiLower c = true) :
    97 ≤ c.toNat ∧ c.toNat ≤ 122 := by
  simp only [isAsciiLower, Bool.and_eq_true, decide_eq_true_eq] at h
  exact h

theorem asciiUpper_bounds {c : Char} (h : isAsciiUpper c = true) :
    65 ≤ c.toNat ∧ c.toNat ≤ 90 := by
  simp only [isAsciiUpper, Bool.and_eq_true, decide_eq_true_eq] at h
  exact h

namespace IsSign

variable {mark c : Char} (hmark : IsSign mark)

include hmark

theorem notMem_upperChar (hc : c ≠ mark) : mark ∉ upperChar c := by
  unfold upperChar
  split
  · split
    · next hlower =>
      have hcapital : c.toNat - 32 ≠ mark.toNat := by
        have hbounds := asciiLower_bounds hlower
        have hnot := hmark.notCapital
        omega
      simpa using (ofNat_ne hmark.positive hcapital).symm
    · simpa using hc.symm
  · split
    · next cs hcs =>
      obtain ⟨before, after, he, -⟩ := List.lookup_eq_some_iff.1 hcs
      exact hmark.upperExpanded (c.toNat, cs) (by simp [he])
    · have hshift := Shift.apply_ne hmark.positive hmark.upper (toNat_ne hc)
      simpa using (ofNat_ne hmark.positive hshift).symm

theorem notMem_lowerChar (hc : c ≠ mark) : mark ∉ lowerChar c := by
  unfold lowerChar
  split
  · split
    · next hupper =>
      have hsmall : c.toNat + 32 ≠ mark.toNat := by
        have hbounds := asciiUpper_bounds hupper
        have hnot := hmark.notSmall
        omega
      simpa using (ofNat_ne hmark.positive hsmall).symm
    · simpa using hc.symm
  · split
    · exact hmark.lowerExpanded
    · have hshift := Shift.apply_ne hmark.positive hmark.lower (toNat_ne hc)
      simpa using (ofNat_ne hmark.positive hshift).symm

end IsSign

end Text

namespace Name

open Text

variable {mark : Char} (hmark : IsSign mark)

include hmark

theorem notMem_wordsOf {cs w : List Char} (hw : w ∈ wordsOf cs) : mark ∉ w := by
  intro hmem
  have hflat : mark ∈ (wordsOf cs).flatten := List.mem_flatten.2 ⟨w, hw, hmem⟩
  have hletters : ∀ c ∈ (wordsOf cs).flatten, isAlphanumeric c := by
    rw [flatten_wordsOf]
    split
    · exact List.all_eq_true.1 (by decide)
    · exact fun c hc => (List.mem_filter.1 hc).2
  simpa [hmark.other] using hletters mark hflat

theorem notMem_upperWord {w : List Char} (hw : mark ∉ w) : mark ∉ upperWord w := by
  rw [upperWord, List.mem_flatMap]
  rintro ⟨c, hc, hmem⟩
  exact hmark.notMem_upperChar (fun he => hw (he ▸ hc)) hmem

theorem notMem_lowerWord {w : List Char} (hw : mark ∉ w) : mark ∉ lowerWord w := by
  fun_induction lowerWord w with
  | case1 => exact hw
  | case2 => simpa using hmark.finalSigma
  | case3 c rest _ ih =>
    obtain ⟨hc, hrest⟩ := not_or.1 (List.mem_cons.not.1 hw)
    rw [List.mem_append]
    exact not_or.2 ⟨hmark.notMem_lowerChar (Ne.symm hc), ih hrest⟩

theorem notMem_capitalizeWord {w : List Char} (hw : mark ∉ w) : mark ∉ capitalizeWord w := by
  cases w with
  | nil => exact hw
  | cons c rest =>
    obtain ⟨hc, hrest⟩ := not_or.1 (List.mem_cons.not.1 hw)
    rw [capitalizeWord, List.mem_append]
    exact not_or.2 ⟨hmark.notMem_upperChar (Ne.symm hc), notMem_lowerWord hmark hrest⟩

theorem notMem_pascal (n : Name) : mark ∉ n.pascal.toList := by
  rw [pascal, String.toList_ofList, pascalOf, List.mem_flatMap]
  rintro ⟨w, hw, hmem⟩
  exact notMem_capitalizeWord hmark (notMem_wordsOf hmark hw) hmem

end Name

end SpringScaffold
