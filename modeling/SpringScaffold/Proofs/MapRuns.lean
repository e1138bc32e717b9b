import SpringScaffold.Proofs.Cut
import SpringScaffold.Text.Blank

/-! Changing the runs of a text and nothing else. Whatever cuts a text at characters outside its
runs gives the same parts before and after the change: the split at the first or last mark
(`splitAtFirst_mapRuns`, `splitAtLast_mapRuns`) and trimming (`trim_mapRuns`). -/

namespace SpringScaffold.Text

variable {keep : Char → Bool} {f : List Char → List Char}

/-- The text with each of its runs replaced. -/
def mapRuns (keep : Char → Bool) (f : List Char → List Char) (cs : List Char) : List Char :=
  glue ((cut keep cs).map (Piece.mapRun f))

/-- Runs become runs, never the empty text. -/
def KeepsRuns (keep : Char → Bool) (f : List Char → List Char) : Prop :=
  ∀ w, IsRun keep w → IsRun keep (f w)

theorem cut_mapRuns (hf : KeepsRuns keep f) (cs : List Char) :
    cut keep (mapRuns keep f cs) = (cut keep cs).map (Piece.mapRun f) :=
  cut_glue ((isCut_cut keep cs).mapRun hf)

theorem runs_mapRuns (hf : KeepsRuns keep f) (cs : List Char) :
    runs keep (mapRuns keep f cs) = (runs keep cs).map f := by
  rw [runs, cut_mapRuns hf, runs, List.filterMap_map, List.map_filterMap]
  congr 1
  funext p
  cases p <;> rfl

theorem mapRuns_mapRuns (hf : KeepsRuns keep f) (g : List Char → List Char) (cs : List Char) :
    mapRuns keep g (mapRuns keep f cs) = mapRuns keep (g ∘ f) cs := by
  unfold mapRuns
  rw [show cut keep (glue ((cut keep cs).map (Piece.mapRun f))) = _ from cut_mapRuns hf cs,
    List.map_map]
  congr 2
  funext p
  cases p <;> rfl

theorem mapRuns_id (keep : Char → Bool) (cs : List Char) : mapRuns keep id cs = cs := by
  have hid : Piece.mapRun id = id := by
    funext p
    cases p <;> rfl
  rw [mapRuns, hid, List.map_id, glue_cut]

@[simp] theorem mapRuns_nil : mapRuns keep f [] = [] := rfl

theorem mapRuns_append_other (as : List Char) {c : Char} (hc : keep c = false) (bs : List Char) :
    mapRuns keep f (as ++ c :: bs) = mapRuns keep f as ++ c :: mapRuns keep f bs := by
  simp [mapRuns, cut_append_other as hc, Piece.mapRun, Piece.toList]

theorem mapRuns_cons_other {c : Char} (hc : keep c = false) (cs : List Char) :
    mapRuns keep f (c :: cs) = c :: mapRuns keep f cs :=
  mapRuns_append_other [] hc cs

/-- A character outside the runs stands there as a piece of its own. -/
theorem mem_glue_iff {ps : List Piece} (h : IsCut keep ps) {c : Char} (hc : keep c = false) :
    c ∈ glue ps ↔ .other c ∈ ps := by
  constructor
  · intro hm
    obtain ⟨l, hl, hcl⟩ := List.mem_flatten.1 hm
    obtain ⟨p, hp, rfl⟩ := List.mem_map.1 hl
    cases p with
    | run w =>
      have hk : keep c = true := (h.fits _ hp).2 c hcl
      simp [hc] at hk
    | other d =>
      obtain rfl : c = d := by simpa [Piece.toList] using hcl
      exact hp
  · intro hp
    exact List.mem_flatten.2 ⟨[c], List.mem_map.2 ⟨.other c, hp, rfl⟩, by simp⟩

theorem mem_mapRuns_iff (hf : KeepsRuns keep f) {c : Char} (hc : keep c = false) (cs : List Char) :
    c ∈ mapRuns keep f cs ↔ c ∈ cs := by
  have hcs := mem_glue_iff (isCut_cut keep cs) hc
  rw [glue_cut] at hcs
  rw [mapRuns, mem_glue_iff ((isCut_cut keep cs).mapRun hf) hc, hcs, List.mem_map]
  constructor
  · rintro ⟨p, hp, he⟩
    cases p with
    | run w => simp [Piece.mapRun] at he
    | other d => rw [← he]; exact hp
  · intro hp
    exact ⟨.other c, hp, rfl⟩

theorem splitAtFirst_eq_none_iff {mark : Char} {cs : List Char} :
    splitAtFirst mark cs = none ↔ mark ∉ cs := by
  constructor
  · intro h hm
    obtain ⟨before, after, rfl, hb⟩ := List.eq_append_cons_of_mem hm
    simp [splitAtFirst_append after hb] at h
  · intro hm
    cases h : splitAtFirst mark cs with
    | none => rfl
    | some parts =>
      obtain ⟨rfl, -⟩ := eq_append_of_splitAtFirst h
      simp at hm

theorem splitAtFirst_mapRuns (hf : KeepsRuns keep f) {mark : Char} (hm : keep mark = false)
    (cs : List Char) :
    splitAtFirst mark (mapRuns keep f cs) =
      (splitAtFirst mark cs).map (Prod.map (mapRuns keep f) (mapRuns keep f)) := by
  cases h : splitAtFirst mark cs with
  | none =>
    rw [Option.map_none, splitAtFirst_eq_none_iff, mem_mapRuns_iff hf hm]
    exact splitAtFirst_eq_none_iff.1 h
  | some parts =>
    obtain ⟨before, after⟩ := parts
    obtain ⟨rfl, hb⟩ := eq_append_of_splitAtFirst h
    rw [mapRuns_append_other before hm after, Option.map_some]
    exact splitAtFirst_append _ (by rwa [mem_mapRuns_iff hf hm])

/-- What changes a run as `f` does when it is read from its end. -/
def flipped (f : List Char → List Char) (w : List Char) : List Char := (f w.reverse).reverse

theorem KeepsRuns.flipped (hf : KeepsRuns keep f) : KeepsRuns keep (flipped f) :=
  fun w hw => (hf w.reverse hw.reverse).reverse

theorem reverse_mapRuns (cs : List Char) :
    (mapRuns keep f cs).reverse = mapRuns keep (flipped f) cs.reverse := by
  rw [mapRuns, mapRuns, cut_reverse, ← glue_reverse, List.map_reverse, List.map_map, List.map_map]
  congr 2
  apply List.map_congr_left
  intro p _
  cases p <;> simp [Piece.mapRun, Piece.reverse, Text.flipped]

theorem reverse_mapRuns_flipped (cs : List Char) :
    (mapRuns keep (flipped f) cs).reverse = mapRuns keep f cs.reverse := by
  rw [← cs.reverse_reverse, ← reverse_mapRuns, List.reverse_reverse, List.reverse_reverse]

theorem splitAtLast_mapRuns (hf : KeepsRuns keep f) {mark : Char} (hm : keep mark = false)
    (cs : List Char) :
    splitAtLast mark (mapRuns keep f cs) =
      (splitAtLast mark cs).map (Prod.map (mapRuns keep f) (mapRuns keep f)) := by
  rw [splitAtLast, reverse_mapRuns, splitAtFirst_mapRuns hf.flipped hm, splitAtLast, Option.map_map,
    Option.map_map]
  congr 1
  funext parts
  simp [reverse_mapRuns_flipped]

/-- The first character of a run stays a kept one. -/
theorem mapRuns_cons_run (hf : KeepsRuns keep f) {c : Char} (hc : keep c = true) (cs : List Char) :
    ∃ d ds, keep d = true ∧ mapRuns keep f (c :: cs) = d :: ds := by
  obtain ⟨w, ps, hcut⟩ : ∃ w ps, cut keep (c :: cs) = .run w :: ps := by
    rw [cut, if_pos hc]
    split
    · exact ⟨_, _, rfl⟩
    · exact ⟨_, _, rfl⟩
  have hw : IsRun keep w := (hcut ▸ isCut_cut keep (c :: cs)).fits _ List.mem_cons_self
  obtain ⟨hne, hkept⟩ := hf w hw
  obtain ⟨d, ds, hd⟩ := List.exists_cons_of_ne_nil hne
  refine ⟨d, ds ++ glue (ps.map (Piece.mapRun f)), hkept d (by simp [hd]), ?_⟩
  simp [mapRuns, hcut, Piece.mapRun, Piece.toList, hd]

section Trim

variable (hblank : ∀ c, isBlank c = true → keep c = false)
include hblank

theorem trimStart_mapRuns (hf : KeepsRuns keep f) (cs : List Char) :
    trimStart (mapRuns keep f cs) = mapRuns keep f (trimStart cs) := by
  induction cs with
  | nil => rfl
  | cons c cs ih =>
    by_cases hb : isBlank c = true
    · rw [mapRuns_cons_other (hblank c hb)]
      simpa [trimStart, hb] using ih
    · have hstay : trimStart (c :: cs) = c :: cs := by simp [trimStart, hb]
      rw [hstay]
      by_cases hc : keep c = true
      · obtain ⟨d, ds, hd, he⟩ := mapRuns_cons_run hf hc cs
        have hdb : isBlank d = false := by
          by_contra hdb
          simp [hblank d (by simpa using hdb)] at hd
        rw [he]
        simp [trimStart, hdb]
      · rw [mapRuns_cons_other (by simpa using hc)]
        simp [trimStart, hb]

theorem trimEnd_mapRuns (hf : KeepsRuns keep f) (cs : List Char) :
    trimEnd (mapRuns keep f cs) = mapRuns keep f (trimEnd cs) := by
  have hstart : trimStart (mapRuns keep f cs).reverse =
      mapRuns keep (flipped f) (trimStart cs.reverse) := by
    rw [reverse_mapRuns, trimStart_mapRuns hblank hf.flipped]
  calc
    trimEnd (mapRuns keep f cs) = (trimStart (mapRuns keep f cs).reverse).reverse := rfl
    _ = mapRuns keep f (trimStart cs.reverse).reverse := by rw [hstart, reverse_mapRuns_flipped]

theorem trim_mapRuns (hf : KeepsRuns keep f) (cs : List Char) :
    trim (mapRuns keep f cs) = mapRuns keep f (trim cs) := by
  rw [trim, trimStart_mapRuns hblank hf, trimEnd_mapRuns hblank hf, trim]

end Trim

/-- The run that some pieces begin with, or the empty text. -/
def leadingRun : List Piece → List Char
  | .run w :: _ => w
  | _ => []

theorem takeWhile_glue {ps : List Piece} (h : IsCut keep ps) :
    (glue ps).takeWhile keep = leadingRun ps := by
  cases ps with
  | nil => rfl
  | cons p ps =>
    cases p with
    | other c =>
      have hc : keep c = false := h.fits _ List.mem_cons_self
      simp [Piece.toList, leadingRun, hc]
    | run w =>
      have hw : IsRun keep w := h.fits _ List.mem_cons_self
      have hrest : (glue ps).takeWhile keep = [] := by
        cases ps with
        | nil => rfl
        | cons q qs =>
          cases q with
          | run v => exact absurd rfl (h.not_run_of_run v qs)
          | other c =>
            have hc : keep c = false := h.tail.fits _ List.mem_cons_self
            simp [Piece.toList, hc]
      rw [glue_cons, Piece.toList, List.takeWhile_append_of_pos hw.2, hrest, List.append_nil,
        leadingRun]

/-- The first run of a text is replaced like any other, and no other run takes its place. -/
theorem takeWhile_mapRuns (hf : KeepsRuns keep f) (cs : List Char) :
    (mapRuns keep f cs).takeWhile keep =
      if cs.takeWhile keep = [] then [] else f (cs.takeWhile keep) := by
  have hcs : cs.takeWhile keep = leadingRun (cut keep cs) := by
    rw [← takeWhile_glue (isCut_cut keep cs), glue_cut]
  rw [mapRuns, takeWhile_glue ((isCut_cut keep cs).mapRun hf), hcs]
  have hcut := isCut_cut keep cs
  cases h : cut keep cs with
  | nil => rfl
  | cons p ps =>
    cases p with
    | other c => rfl
    | run w =>
      have hw : IsRun keep w := (h ▸ hcut).fits _ List.mem_cons_self
      simp [leadingRun, Piece.mapRun, hw.1]

/-- A text of kept characters begins a text if it begins its first run. -/
theorem prefix_iff_prefix_takeWhile {o : List Char} (ho : ∀ c ∈ o, keep c = true) (cs : List Char) :
    o <+: cs ↔ o <+: cs.takeWhile keep := by
  constructor
  · rintro ⟨rest, rfl⟩
    rw [List.takeWhile_append_of_pos ho]
    exact List.prefix_append _ _
  · intro h
    exact h.trans (List.takeWhile_prefix keep)

end SpringScaffold.Text
