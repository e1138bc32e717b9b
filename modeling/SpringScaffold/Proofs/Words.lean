import SpringScaffold.Name
import SpringScaffold.Proofs.Cut

/-! The words of a name. Whatever the sanitizer puts into a text separates words, so it changes none
of them (`Name.runs_sanitize`). Cutting a run at its humps loses no character and makes no empty
word. So the words of a text hold its letters and numbers in their order
(`Name.flatten_wordsOf`). -/

namespace SpringScaffold

namespace Text

variable {keep : Char → Bool}

theorem runs_append_other (as : List Char) {c : Char} (hc : keep c = false) (bs : List Char) :
    runs keep (as ++ c :: bs) = runs keep as ++ runs keep bs := by
  rw [runs, cut_append_other as hc, List.filterMap_append, List.filterMap_cons_none rfl]
  rfl

theorem runs_nil (keep : Char → Bool) : runs keep [] = [] := rfl

theorem runs_cons_other {c : Char} (hc : keep c = false) (cs : List Char) :
    runs keep (c :: cs) = runs keep cs :=
  runs_append_other [] hc cs

/-- The runs of a text hold all kept characters. -/
theorem flatten_runs (keep : Char → Bool) (cs : List Char) :
    (runs keep cs).flatten = cs.filter keep := by
  have hpieces : ∀ ps : List Piece, (∀ p ∈ ps, p.Fits keep) →
      (ps.filterMap Piece.run?).flatten = (glue ps).filter keep := by
    intro ps hfits
    induction ps with
    | nil => rfl
    | cons p ps ih =>
      have hrest := ih fun q hq => hfits q (List.mem_cons_of_mem _ hq)
      have hp := hfits p List.mem_cons_self
      rw [glue_cons, List.filter_append, ← hrest]
      cases p with
      | other c =>
        have hc : keep c = false := hp
        rw [List.filterMap_cons_none rfl]
        simp [Piece.toList, hc]
      | run w =>
        have hw : w.filter keep = w := List.filter_eq_self.2 hp.2
        rw [List.filterMap_cons_some (show (Piece.run w).run? = some w from rfl), List.flatten_cons,
          Piece.toList, hw]
  rw [runs, hpieces _ (isCut_cut keep cs).fits, glue_cut]

theorem subset_of_mem_runs {w cs : List Char} (hw : w ∈ runs keep cs) : w ⊆ cs := by
  intro c hc
  have hflat : c ∈ (runs keep cs).flatten := List.mem_flatten.2 ⟨w, hw, hc⟩
  rw [flatten_runs] at hflat
  exact (List.mem_filter.1 hflat).1

theorem runs_eq_nil_iff {cs : List Char} : runs keep cs = [] ↔ cs.filter keep = [] := by
  rw [← flatten_runs]
  constructor
  · intro h
    rw [h]
    rfl
  · intro h
    cases hruns : runs keep cs with
    | nil => rfl
    | cons w ws =>
      rw [hruns, List.flatten_cons, List.append_eq_nil_iff] at h
      exact absurd h.1 (isRun_of_mem_runs (hruns ▸ List.mem_cons_self)).1

end Text

namespace Name

open Text

theorem flatten_humps (h : Hump) (word cs : List Char) :
    (humps h word cs).flatten = word.reverse ++ cs := by
  fun_induction humps h word cs with
  | case1 => rfl
  | case2 => simp
  | case3 => simp
  | case4 h word c d rest _ ih => simp [ih]
  | case5 h word c d rest _ _ ih => simp [ih]
  | case6 h word c d rest _ _ ih => simp [ih]

/-- Only a word that has a letter already is told apart by the case of that letter. -/
theorem nil_notMem_humps {h : Hump} {word : List Char} (hword : h ≠ .boundary → word ≠ [])
    (cs : List Char) : [] ∉ humps h word cs := by
  fun_induction humps h word cs with
  | case1 => simp
  | case2 h word hne => simpa using hne
  | case3 => simp
  | case4 h word c d rest _ ih => simpa using ih
  | case5 h word c d rest _ hacronym ih =>
    have hupper : h = .upper := by
      simp only [Bool.and_eq_true, decide_eq_true_eq] at hacronym
      exact hacronym.1.1
    have hne : word ≠ [] := hword (by rw [hupper]; decide)
    simpa [hne] using ih
  | case6 h word c d rest _ _ ih => exact ih fun _ => by simp

/-- What `separated` announces may as well stand in the text. -/
theorem runs_sanitizeFrom (result : List Char) (separated : Bool) (cs : List Char) :
    runs isAlphanumeric (sanitizeFrom result separated cs) =
      runs isAlphanumeric (result.reverse ++ (bif separated then ['_'] else []) ++ cs) := by
  have hmark : isAlphanumeric '_' = false := by decide
  induction cs generalizing result separated with
  | nil => cases separated <;> simp [sanitizeFrom, runs_append_other, hmark, runs_nil]
  | cons c rest ih =>
    rw [sanitizeFrom]
    split
    · rw [ih]
      cases result with
      | nil =>
        -- Nothing but underscores comes in front of the first letter or digit.
        cases separated <;> cases isAsciiDigit c <;> simp [runs_cons_other, hmark]
      | cons d ds => cases separated <;> simp
    · next hc =>
      rw [ih]
      cases separated <;>
        simp [runs_append_other, runs_cons_other, hmark, Bool.eq_false_iff.2 hc]

theorem sanitizeFrom_eq_nil {separated : Bool} {cs : List Char}
    (h : cs.filter isAlphanumeric = []) : sanitizeFrom [] separated cs = [] := by
  induction cs generalizing separated with
  | nil => rfl
  | cons c rest ih =>
    have hc : ¬ isAlphanumeric c = true := List.filter_eq_nil_iff.1 h c List.mem_cons_self
    rw [List.filter_cons_of_neg hc] at h
    rw [sanitizeFrom, if_neg hc, ih h]

/-- The sanitizer names what has no name, and changes nothing else for the words. -/
theorem runs_sanitize (cs : List Char) :
    runs isAlphanumeric (sanitize cs) =
      if cs.filter isAlphanumeric = [] then ["unnamed".toList] else runs isAlphanumeric cs := by
  have hruns := runs_sanitizeFrom [] false cs
  simp only [List.reverse_nil, cond_false, List.nil_append] at hruns
  unfold sanitize
  split
  · next hnil =>
    rw [hnil] at hruns
    rw [if_pos (runs_eq_nil_iff.1 hruns.symm)]
    decide
  · next hne => rw [if_neg fun hnil => hne (sanitizeFrom_eq_nil hnil), hruns]

theorem flatten_wordsOf (cs : List Char) :
    (wordsOf cs).flatten =
      if cs.filter isAlphanumeric = [] then "unnamed".toList else cs.filter isAlphanumeric := by
  have hflat : ∀ rs : List (List Char), (rs.flatMap (humps .boundary [])).flatten = rs.flatten := by
    intro rs
    induction rs with
    | nil => rfl
    | cons r rs ih => simp [flatten_humps, ih]
  rw [wordsOf, hflat, runs_sanitize]
  split
  · exact List.flatten_singleton
  · exact flatten_runs isAlphanumeric cs

theorem nil_notMem_wordsOf (cs : List Char) : [] ∉ wordsOf cs := by
  intro hnil
  obtain ⟨r, -, hr⟩ := List.mem_flatMap.1 hnil
  exact nil_notMem_humps (fun h => absurd rfl h) r hr

theorem wordsOf_ne_nil (cs : List Char) : wordsOf cs ≠ [] := by
  intro h
  have hflat := flatten_wordsOf cs
  rw [h] at hflat
  split at hflat
  · cases hflat
  · next hne => exact hne hflat.symm

end Name

end SpringScaffold
