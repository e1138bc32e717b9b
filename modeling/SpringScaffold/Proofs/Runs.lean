import SpringScaffold.Proofs.Words

/-! The maximal runs of a text without the pieces between them. A text holds a list of runs when
they stand in it in this order with anything else around them (`Text.hasRuns_iff`), and a word is
one of the runs exactly where it stands with no kept character next to it (`Text.mem_runs_iff`). -/

namespace SpringScaffold.Text

variable {keep : Char → Bool}

theorem runs_append_of_head? (as : List Char) {bs : List Char}
    (hstop : ∀ c ∈ bs.head?, keep c = false) :
    runs keep (as ++ bs) = runs keep as ++ runs keep bs := by
  cases bs with
  | nil => simp [runs_nil]
  | cons c bs =>
    have hc : keep c = false := hstop c rfl
    rw [runs_append_other as hc, runs_cons_other hc]

theorem runs_of_isRun {w : List Char} (hw : IsRun keep w) : runs keep w = [w] := by
  have hcut : cut keep w = [.run w] := by
    rw [← w.append_nil, cut_run_append hw (by simp [cut]), List.append_nil]
    rfl
  rw [runs, hcut]
  rfl

theorem runs_append_of_isRun {w cs : List Char} (hw : IsRun keep w)
    (hstop : ∀ c ∈ cs.head?, keep c = false) : runs keep (w ++ cs) = w :: runs keep cs := by
  rw [runs_append_of_head? w hstop, runs_of_isRun hw, List.singleton_append]

/-- The text holds the runs in this order. Other characters may stand before, between and behind
them, and what follows a run does not begin with a kept character. -/
inductive HasRuns (keep : Char → Bool) : List (List Char) → List Char → Prop where
  | nil : HasRuns keep [] []
  | other {c : Char} {ws : List (List Char)} {cs : List Char} (hc : keep c = false)
    (h : HasRuns keep ws cs) : HasRuns keep ws (c :: cs)
  | run {w : List Char} {ws : List (List Char)} {cs : List Char} (hw : IsRun keep w)
    (hstop : ∀ c ∈ cs.head?, keep c = false) (h : HasRuns keep ws cs) :
    HasRuns keep (w :: ws) (w ++ cs)

theorem HasRuns.runs_eq {ws : List (List Char)} {cs : List Char} (h : HasRuns keep ws cs) :
    runs keep cs = ws := by
  induction h with
  | nil => rfl
  | other hc _ ih => rw [runs_cons_other hc, ih]
  | run hw hstop _ ih => rw [runs_append_of_isRun hw hstop, ih]

theorem hasRuns_glue {ps : List Piece} (h : IsCut keep ps) :
    HasRuns keep (ps.filterMap Piece.run?) (glue ps) := by
  induction ps with
  | nil => exact .nil
  | cons p ps ih =>
    have hp : p.Fits keep := h.fits p List.mem_cons_self
    rw [glue_cons]
    cases p with
    | other c => exact .other hp (ih h.tail)
    | run w =>
      refine .run hp ?_ (ih h.tail)
      intro c hc
      cases ps with
      | nil => simp at hc
      | cons q ps =>
        cases q with
        | run v => exact absurd rfl (h.not_run_of_run v ps)
        | other d =>
          obtain rfl : d = c := by simpa [Piece.toList] using hc
          exact h.tail.fits _ List.mem_cons_self

/-- Every text holds one list of runs. -/
theorem hasRuns_iff {ws : List (List Char)} {cs : List Char} :
    HasRuns keep ws cs ↔ runs keep cs = ws := by
  constructor
  · exact HasRuns.runs_eq
  · rintro rfl
    have h := hasRuns_glue (isCut_cut keep cs)
    rwa [glue_cut] at h

/-- Runs of fewer characters lie within the runs of more characters. -/
theorem flatMap_runs {wide : Char → Bool} (h : ∀ c, keep c = true → wide c = true)
    (cs : List Char) : (runs wide cs).flatMap (runs keep) = runs keep cs := by
  have hother : ∀ {c}, wide c = false → keep c = false := by
    intro c hc
    by_contra hk
    rw [h c (by simpa using hk)] at hc
    cases hc
  generalize hws : runs wide cs = ws
  induction hasRuns_iff.2 hws with
  | nil => rfl
  | other hc hrest ih => rw [runs_cons_other (hother hc), ih hrest.runs_eq]
  | run hw hstop hrest ih =>
    rw [List.flatMap_cons, ih hrest.runs_eq,
      runs_append_of_head? _ fun c hc => hother (hstop c hc)]

/-- The first part reaches up to the first character that is not kept. -/
theorem splitWhere_append {w cs : List Char} (hw : ∀ c ∈ w, keep c = true)
    (hstop : ∀ c ∈ cs.head?, keep c = false) :
    splitWhere (!keep ·) (w ++ cs) = w :: (splitWhere (!keep ·) cs).tail := by
  induction w with
  | nil =>
    cases cs with
    | nil => rfl
    | cons c cs =>
      have hc : keep c = false := hstop c rfl
      simp [splitWhere, hc]
  | cons c w ih =>
    obtain ⟨hc, hw⟩ := List.forall_mem_cons.1 hw
    rw [List.cons_append, splitWhere, hc, Bool.not_true, if_neg Bool.false_ne_true, ih hw]

/-- The parts between the characters that are not kept are the runs, once the empty ones are left
out. -/
theorem filter_splitWhere (cs : List Char) :
    (splitWhere (!keep ·) cs).filter (!·.isEmpty) = runs keep cs := by
  generalize hws : runs keep cs = ws
  induction hasRuns_iff.2 hws with
  | nil => rfl
  | other hc hrest ih =>
    rw [splitWhere, hc, Bool.not_false, if_pos rfl, List.filter_cons_of_neg (by simp),
      ih hrest.runs_eq]
  | run hw hstop hrest ih =>
    have hrest := ih hrest.runs_eq
    have hfirst := splitWhere_append (w := []) (by simp) hstop
    rw [List.nil_append] at hfirst
    rw [hfirst, List.filter_cons_of_neg (by simp)] at hrest
    rw [splitWhere_append hw.2 hstop, List.filter_cons_of_pos (by simpa using hw.1), hrest]

/-- The word stands in the text, and no kept character stands next to it. -/
def StandsIn (keep : Char → Bool) (w cs : List Char) : Prop :=
  ∃ before after, cs = before ++ w ++ after ∧ IsRun keep w ∧
    (∀ c ∈ before.getLast?, keep c = false) ∧ ∀ c ∈ after.head?, keep c = false

theorem HasRuns.standsIn {ws : List (List Char)} {cs : List Char} (h : HasRuns keep ws cs)
    {w : List Char} (hmem : w ∈ ws) : StandsIn keep w cs := by
  induction h with
  | nil => cases hmem
  | @other c _ _ hc _ ih =>
    obtain ⟨before, after, rfl, hw, hbefore, hafter⟩ := ih hmem
    refine ⟨c :: before, after, rfl, hw, ?_, hafter⟩
    cases before with
    | nil => simpa using hc
    | cons b before => simpa [List.getLast?_cons_cons] using hbefore
  | @run v _ cs hv hstop _ ih =>
    rcases List.mem_cons.1 hmem with rfl | hmem
    · exact ⟨[], cs, rfl, hv, by simp, hstop⟩
    · obtain ⟨before, after, rfl, hw, hbefore, hafter⟩ := ih hmem
      refine ⟨v ++ before, after, by simp, hw, ?_, hafter⟩
      cases before with
      | nil =>
        -- A run right behind another one would be part of it.
        obtain ⟨c, w, rfl⟩ := List.exists_cons_of_ne_nil hw.1
        exact absurd (hw.2 c List.mem_cons_self) (by simp [hstop c rfl])
      | cons b before => simpa [List.getLast?_append] using hbefore

theorem mem_runs_iff {w cs : List Char} : w ∈ runs keep cs ↔ StandsIn keep w cs := by
  constructor
  · exact (hasRuns_iff.2 rfl).standsIn
  · rintro ⟨before, after, rfl, hw, hbefore, hafter⟩
    rcases List.eq_nil_or_concat before with rfl | ⟨before, c, rfl⟩
    · rw [List.nil_append, runs_append_of_isRun hw hafter]
      exact List.mem_cons_self
    · have hc : keep c = false := hbefore c (by simp)
      have htext : before.concat c ++ w ++ after = before ++ c :: (w ++ after) := by simp
      rw [htext, runs_append_other before hc, runs_append_of_isRun hw hafter]
      exact List.mem_append_right _ List.mem_cons_self

/-- Runs do not reach over what joins some texts. -/
theorem runs_intercalate_eq_flatMap {c : Char} (hc : keep c = false) (ps : List (List Char)) :
    runs keep ([c].intercalate ps) = ps.flatMap (runs keep) := by
  induction ps with
  | nil => rfl
  | cons p ps ih =>
    cases ps with
    | nil => simp
    | cons q ps =>
      rw [List.intercalate_cons_cons, List.append_assoc, List.singleton_append,
        runs_append_other p hc, ih]
      exact List.flatMap_cons.symm

/-- Runs that are joined by something else are the runs of the joined text. -/
theorem runs_intercalate {c : Char} (hc : keep c = false) {ws : List (List Char)}
    (hws : ∀ w ∈ ws, IsRun keep w) : runs keep ([c].intercalate ws) = ws := by
  have hruns : ws.map (runs keep) = ws.map fun w => [w] :=
    List.map_congr_left fun w hw => runs_of_isRun (hws w hw)
  rw [runs_intercalate_eq_flatMap hc, List.flatMap_def, hruns, ← List.flatMap_def,
    List.flatMap_singleton']

end SpringScaffold.Text
