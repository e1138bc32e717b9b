import Mathlib.Data.List.Chain
import SpringScaffold.Text.Runs

/-! The pieces of a text, told apart from the function that finds them: runs are not empty and hold
kept characters only, all other pieces are single characters that are not kept, and no two runs are
neighbours. A text has exactly one such sequence of pieces (`cut_eq_iff`), so a run of it is
maximal, and reversing the text or changing its runs keeps the sequence. -/

namespace SpringScaffold.Text

variable {keep : Char → Bool}

/-- The text of some pieces. -/
def glue (ps : List Piece) : List Char := (ps.map Piece.toList).flatten

@[simp] theorem glue_nil : glue [] = [] := rfl

@[simp] theorem glue_cons (p : Piece) (ps : List Piece) : glue (p :: ps) = p.toList ++ glue ps := by
  simp [glue]

@[simp] theorem glue_append (ps qs : List Piece) : glue (ps ++ qs) = glue ps ++ glue qs := by
  simp [glue]

theorem glue_cut (keep : Char → Bool) (cs : List Char) : glue (cut keep cs) = cs :=
  flatten_cut keep cs

/-- A run of kept characters. -/
def IsRun (keep : Char → Bool) (cs : List Char) : Prop := cs ≠ [] ∧ ∀ c ∈ cs, keep c = true

theorem isRun_singleton {c : Char} (h : keep c = true) : IsRun keep [c] := by
  simp [IsRun, h]

theorem IsRun.cons {c : Char} {w : List Char} (h : keep c = true) (hw : IsRun keep w) :
    IsRun keep (c :: w) := by
  refine ⟨by simp, ?_⟩
  intro d hd
  rcases List.mem_cons.1 hd with rfl | hd
  · exact h
  · exact hw.2 d hd

theorem IsRun.append {v w : List Char} (hv : IsRun keep v) (hw : ∀ c ∈ w, keep c = true) :
    IsRun keep (v ++ w) := by
  refine ⟨by simp [hv.1], ?_⟩
  intro c hc
  rcases List.mem_append.1 hc with hc | hc
  · exact hv.2 c hc
  · exact hw c hc

theorem IsRun.reverse {w : List Char} (h : IsRun keep w) : IsRun keep w.reverse :=
  ⟨by simpa using h.1, fun c hc => h.2 c (List.mem_reverse.1 hc)⟩

namespace Piece

def Fits (keep : Char → Bool) : Piece → Prop
  | .run cs => IsRun keep cs
  | .other c => keep c = false

/-- Two neighbours that are not both runs. -/
def Apart : Piece → Piece → Prop
  | .run _, .run _ => False
  | _, _ => True

theorem apart_other (c : Char) (p : Piece) : (other c).Apart p := by
  cases p <;> trivial

def reverse : Piece → Piece
  | .run cs => .run cs.reverse
  | .other c => .other c

/-- Changes the piece if it is a run. -/
def mapRun (f : List Char → List Char) : Piece → Piece
  | .run cs => .run (f cs)
  | .other c => .other c

theorem toList_reverse (p : Piece) : p.reverse.toList = p.toList.reverse := by
  cases p <;> rfl

theorem Fits.reverse {p : Piece} (h : p.Fits keep) : p.reverse.Fits keep := by
  cases p with
  | run cs => exact IsRun.reverse h
  | other c => exact h

end Piece

/-- The pieces of some text: every piece is what it should be, and no two runs are neighbours. -/
structure IsCut (keep : Char → Bool) (ps : List Piece) : Prop where
  fits : ∀ p ∈ ps, p.Fits keep
  apart : ps.IsChain Piece.Apart

namespace IsCut

theorem nil : IsCut keep [] := ⟨by simp, .nil⟩

theorem tail {p : Piece} {ps : List Piece} (h : IsCut keep (p :: ps)) : IsCut keep ps :=
  ⟨fun q hq => h.fits q (List.mem_cons_of_mem _ hq), h.apart.of_cons⟩

theorem cons_other {c : Char} {ps : List Piece} (hc : keep c = false) (h : IsCut keep ps) :
    IsCut keep (.other c :: ps) := by
  constructor
  · intro p hp
    rcases List.mem_cons.1 hp with rfl | hp
    · exact hc
    · exact h.fits p hp
  · cases ps with
    | nil => exact .singleton _
    | cons p ps => exact List.isChain_cons_cons.2 ⟨Piece.apart_other c p, h.apart⟩

/-- A run may stand in front of whatever does not begin with a run. -/
theorem cons_run {w : List Char} {ps : List Piece} (hw : IsRun keep w) (h : IsCut keep ps)
    (hps : ∀ v qs, ps ≠ .run v :: qs) : IsCut keep (.run w :: ps) := by
  constructor
  · intro p hp
    rcases List.mem_cons.1 hp with rfl | hp
    · exact hw
    · exact h.fits p hp
  · cases ps with
    | nil => exact .singleton _
    | cons p ps =>
      cases p with
      | run v => exact absurd rfl (hps v ps)
      | other c => exact List.isChain_cons_cons.2 ⟨trivial, h.apart⟩

/-- Behind a run there is no further run. -/
theorem not_run_of_run {w : List Char} {ps : List Piece} (h : IsCut keep (.run w :: ps)) :
    ∀ v qs, ps ≠ .run v :: qs := by
  rintro v qs rfl
  exact (List.isChain_cons_cons.1 h.apart).1

theorem append_other {ps qs : List Piece} {c : Char} (hp : IsCut keep ps) (hc : keep c = false)
    (hq : IsCut keep qs) : IsCut keep (ps ++ .other c :: qs) := by
  induction ps with
  | nil => exact hq.cons_other hc
  | cons p ps ih =>
    cases p with
    | other d => exact (ih hp.tail).cons_other (hp.fits _ List.mem_cons_self)
    | run w =>
      have hrest : ∀ v rs, ps ++ .other c :: qs ≠ .run v :: rs := by
        intro v rs he
        cases ps with
        | nil => simp at he
        | cons q ps =>
          simp only [List.cons_append, List.cons.injEq] at he
          exact hp.not_run_of_run v ps (by rw [he.1])
      exact (ih hp.tail).cons_run (hp.fits _ List.mem_cons_self) hrest

theorem reverse {ps : List Piece} (h : IsCut keep ps) :
    IsCut keep (ps.map Piece.reverse).reverse := by
  constructor
  · intro p hp
    obtain ⟨q, hq, rfl⟩ := List.mem_map.1 (List.mem_reverse.1 hp)
    exact (h.fits q hq).reverse
  · rw [List.isChain_reverse, List.isChain_map]
    refine h.apart.imp ?_
    intro p q hpq
    cases p <;> cases q <;> simp_all [Piece.Apart, Piece.reverse]

/-- Runs may become other runs. -/
theorem mapRun {f : List Char → List Char} (hf : ∀ w, IsRun keep w → IsRun keep (f w))
    {ps : List Piece} (h : IsCut keep ps) : IsCut keep (ps.map (Piece.mapRun f)) := by
  constructor
  · intro p hp
    obtain ⟨q, hq, rfl⟩ := List.mem_map.1 hp
    cases q with
    | run w => exact hf w (h.fits _ hq)
    | other c => exact h.fits _ hq
  · rw [List.isChain_map]
    refine h.apart.imp ?_
    intro p q hpq
    cases p <;> cases q <;> simp_all [Piece.Apart, Piece.mapRun]

end IsCut

theorem isCut_cut (keep : Char → Bool) (cs : List Char) : IsCut keep (cut keep cs) := by
  induction cs with
  | nil => exact .nil
  | cons c rest ih =>
    unfold cut
    split
    · next hc =>
      split
      · next w ps heq =>
        rw [heq] at ih
        exact ih.tail.cons_run (IsRun.cons hc (ih.fits _ List.mem_cons_self)) ih.not_run_of_run
      · next hne => exact ih.cons_run (isRun_singleton hc) fun v qs he => hne v qs he
    · next hc => exact ih.cons_other (by simpa using hc)

theorem isRun_of_mem_runs {cs w : List Char} (hw : w ∈ runs keep cs) : IsRun keep w := by
  obtain ⟨p, hp, he⟩ := List.mem_filterMap.1 hw
  have hfits := (isCut_cut keep cs).fits p hp
  cases p with
  | other c => cases he
  | run v => exact Option.some.inj he ▸ hfits

theorem cut_cons_other {c : Char} (hc : keep c = false) (cs : List Char) :
    cut keep (c :: cs) = .other c :: cut keep cs := by
  simp [cut, hc]

theorem cut_run_append {w : List Char} (hw : IsRun keep w) {rest : List Char}
    (hrest : ∀ v qs, cut keep rest ≠ .run v :: qs) :
    cut keep (w ++ rest) = .run w :: cut keep rest := by
  induction w with
  | nil => exact absurd rfl hw.1
  | cons c w ih =>
    have hc : keep c = true := hw.2 c List.mem_cons_self
    cases w with
    | nil =>
      rw [List.cons_append, List.nil_append, cut, if_pos hc]
      split
      · next v ps heq => exact absurd heq (hrest v ps)
      · rfl
    | cons d w =>
      have htail : IsRun keep (d :: w) := ⟨by simp, fun e he => hw.2 e (List.mem_cons_of_mem _ he)⟩
      rw [List.cons_append, cut, if_pos hc, ih htail]

/-- Gluing pieces loses nothing of them. -/
theorem cut_glue {ps : List Piece} (h : IsCut keep ps) : cut keep (glue ps) = ps := by
  induction ps with
  | nil => rfl
  | cons p ps ih =>
    have ht := ih h.tail
    cases p with
    | other c =>
      have hc : keep c = false := h.fits _ List.mem_cons_self
      rw [glue_cons, Piece.toList, List.cons_append, List.nil_append, cut_cons_other hc, ht]
    | run w =>
      have hw : IsRun keep w := h.fits _ List.mem_cons_self
      rw [glue_cons, Piece.toList, cut_run_append hw (by rw [ht]; exact h.not_run_of_run), ht]

theorem cut_eq_iff {cs : List Char} {ps : List Piece} :
    cut keep cs = ps ↔ IsCut keep ps ∧ glue ps = cs := by
  constructor
  · rintro rfl
    exact ⟨isCut_cut keep cs, glue_cut keep cs⟩
  · rintro ⟨h, rfl⟩
    exact cut_glue h

theorem cut_append_other (as : List Char) {c : Char} (hc : keep c = false) (bs : List Char) :
    cut keep (as ++ c :: bs) = cut keep as ++ .other c :: cut keep bs := by
  refine cut_eq_iff.2 ⟨(isCut_cut keep as).append_other hc (isCut_cut keep bs), ?_⟩
  simp [glue_cut, Piece.toList]

theorem glue_reverse (ps : List Piece) :
    glue (ps.map Piece.reverse).reverse = (glue ps).reverse := by
  induction ps with
  | nil => rfl
  | cons p ps ih => simp [ih, Piece.toList_reverse]

theorem cut_reverse (cs : List Char) :
    cut keep cs.reverse = ((cut keep cs).map Piece.reverse).reverse := by
  refine cut_eq_iff.2 ⟨(isCut_cut keep cs).reverse, ?_⟩
  rw [glue_reverse, glue_cut]

end SpringScaffold.Text
