import SpringScaffold.Text.Runs

/-! Splitting a text at a character, told apart from the function that does it: the pieces do not
hold the character, and joining them with it gives the text back. -/

namespace SpringScaffold.Text

/-- The pieces of a text between all marks in it. -/
structure IsSplit (mark : Char) (cs : List Char) (pieces : List (List Char)) : Prop where
  ne_nil : pieces ≠ []
  notMem : ∀ p ∈ pieces, mark ∉ p
  joined : [mark].intercalate pieces = cs

theorem IsSplit.singleton {mark : Char} {p : List Char} (h : mark ∉ p) : IsSplit mark p [p] :=
  ⟨by simp, by simpa using h, by simp⟩

theorem IsSplit.cons {mark : Char} {p cs : List Char} {pieces : List (List Char)} (hp : mark ∉ p)
    (h : IsSplit mark cs pieces) : IsSplit mark (p ++ mark :: cs) (p :: pieces) := by
  refine ⟨by simp, ?_, ?_⟩
  · intro q hq
    rcases List.mem_cons.1 hq with rfl | hq
    · exact hp
    · exact h.notMem q hq
  · obtain ⟨q, rest, rfl⟩ := List.exists_cons_of_ne_nil h.ne_nil
    rw [List.intercalate_cons_cons, h.joined, List.append_assoc, List.singleton_append]

/-- The fuel is the number of characters that are left, and each step takes one. -/
theorem isSplit_go (mark : Char) (fuel : Nat) (piece cs : List Char) (hfuel : cs.length ≤ fuel)
    (hpiece : mark ∉ piece) :
    IsSplit mark (piece.reverse ++ cs) (splitOn.go [mark] fuel piece cs) := by
  induction fuel generalizing piece cs with
  | zero =>
    obtain rfl : cs = [] := by simpa using hfuel
    simpa [splitOn.go] using @IsSplit.singleton mark piece.reverse (by simpa using hpiece)
  | succ fuel ih =>
    have hrev : mark ∉ piece.reverse := by simpa using hpiece
    cases cs with
    | nil => simpa [splitOn.go] using IsSplit.singleton hrev
    | cons c rest =>
      have hrest : rest.length ≤ fuel := by simpa using hfuel
      rw [splitOn.go]
      split
      · next hprefix =>
        obtain rfl : mark = c := by simpa using hprefix
        exact (ih [] rest hrest (by simp)).cons hrev
      · next hprefix =>
        have hne : mark ≠ c := by simpa using hprefix
        simpa using ih (c :: piece) rest hrest (by simp [hne, hpiece])

theorem isSplit_splitOn (mark : Char) (cs : List Char) : IsSplit mark cs (splitOn [mark] cs) :=
  isSplit_go mark cs.length [] cs (Nat.le_refl _) (by simp)

theorem IsSplit.eq_splitOn {mark : Char} {cs : List Char} {pieces : List (List Char)}
    (h : IsSplit mark cs pieces) : pieces = splitOn [mark] cs := by
  have hgo := isSplit_splitOn mark cs
  rw [← List.splitOn_intercalate mark h.notMem h.ne_nil, h.joined, ← hgo.joined,
    List.splitOn_intercalate mark hgo.notMem hgo.ne_nil, hgo.joined]

theorem intercalate_append (mark : Char) {ps qs : List (List Char)} (hp : ps ≠ []) (hq : qs ≠ []) :
    [mark].intercalate (ps ++ qs) = [mark].intercalate ps ++ mark :: [mark].intercalate qs := by
  induction ps with
  | nil => contradiction
  | cons p ps ih =>
    cases ps with
    | nil =>
      obtain ⟨q, rest, rfl⟩ := List.exists_cons_of_ne_nil hq
      simp
    | cons p' rest =>
      rw [List.cons_append, List.cons_append, List.intercalate_cons_cons,
        List.intercalate_cons_cons, ← List.cons_append, ih (by simp)]
      simp only [List.append_assoc]

theorem IsSplit.append {mark : Char} {as bs : List Char} {ps qs : List (List Char)}
    (ha : IsSplit mark as ps) (hb : IsSplit mark bs qs) :
    IsSplit mark (as ++ mark :: bs) (ps ++ qs) := by
  refine ⟨by simp [ha.ne_nil], ?_, ?_⟩
  · intro p hp
    exact (List.mem_append.1 hp).elim (ha.notMem p) (hb.notMem p)
  · rw [intercalate_append mark ha.ne_nil hb.ne_nil, ha.joined, hb.joined]

theorem mem_intercalate {mark c : Char} {p : List Char} {pieces : List (List Char)}
    (hp : p ∈ pieces) (hc : c ∈ p) : c ∈ [mark].intercalate pieces := by
  induction pieces with
  | nil => cases hp
  | cons q rest ih =>
    cases rest with
    | nil =>
      obtain rfl := List.mem_singleton.1 hp
      simpa using hc
    | cons q' rest =>
      rw [List.intercalate_cons_cons, List.mem_append, List.mem_append]
      rcases List.mem_cons.1 hp with rfl | hp
      · exact .inl (.inl hc)
      · exact .inr (ih hp)

theorem mem_of_mem_splitOn {mark c : Char} {cs p : List Char} (hp : p ∈ splitOn [mark] cs)
    (hc : c ∈ p) : c ∈ cs := (isSplit_splitOn mark cs).joined ▸ mem_intercalate hp hc

theorem splitOn_append (mark : Char) (as bs : List Char) :
    splitOn [mark] (as ++ mark :: bs) = splitOn [mark] as ++ splitOn [mark] bs :=
  ((isSplit_splitOn mark as).append (isSplit_splitOn mark bs)).eq_splitOn.symm

theorem splitOn_of_notMem {mark : Char} {cs : List Char} (h : mark ∉ cs) :
    splitOn [mark] cs = [cs] := (IsSplit.singleton h).eq_splitOn.symm

end SpringScaffold.Text
