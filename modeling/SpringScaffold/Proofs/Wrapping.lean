import Mathlib.Data.List.DropRight
import SpringScaffold.Java.Method
import SpringScaffold.Proofs.Normalize

/-! Putting a base type into its container and splitting the container off again undo each other, as
long as no white space stands around the base type (`wrap_inverse`). The marks that the container
brings are the first `<` and the last `>` of the whole text, and the first comma behind that `<`, so
the base type may hold marks of its own. -/

namespace SpringScaffold

namespace Text

/-! ### Trimming -/

/-- No white space stands at either end. -/
structure IsTrimmed (cs : List Char) : Prop where
  first : ∀ c ∈ cs.head?, isBlank c = false
  last : ∀ c ∈ cs.getLast?, isBlank c = false

theorem trimStart_of_head? {cs : List Char} (h : ∀ c ∈ cs.head?, isBlank c = false) :
    trimStart cs = cs := by
  cases cs with
  | nil => rfl
  | cons c cs => exact List.dropWhile_cons_of_neg (by simp [h c rfl])

theorem trimEnd_eq_reverse (cs : List Char) : trimEnd cs = (trimStart cs.reverse).reverse := rfl

theorem IsTrimmed.trim_eq {cs : List Char} (h : IsTrimmed cs) : trim cs = cs := by
  rw [trim, trimStart_of_head? h.first, trimEnd_eq_reverse, trimStart_of_head?,
    List.reverse_reverse]
  rw [List.head?_reverse]
  exact h.last

theorem head?_trimStart (cs : List Char) : ∀ c ∈ (trimStart cs).head?, isBlank c = false := by
  intro c hc
  have hnot := List.head?_dropWhile_not isBlank cs
  rwa [show (cs.dropWhile isBlank).head? = some c from hc] at hnot

theorem isTrimmed_trim (cs : List Char) : IsTrimmed (trim cs) where
  first := by
    intro c hc
    have hprefix : trimEnd (trimStart cs) <+: trimStart cs := List.rdropWhile_prefix isBlank _
    obtain ⟨rest, hrest⟩ := hprefix
    apply head?_trimStart cs c
    rw [← hrest, List.head?_append, show (trimEnd (trimStart cs)).head? = some c from hc]
    rfl
  last := by
    intro c hc
    rw [trim, trimEnd_eq_reverse, List.getLast?_reverse] at hc
    exact head?_trimStart _ c hc

theorem isTrimmed_iff {cs : List Char} : IsTrimmed cs ↔ trim cs = cs :=
  ⟨IsTrimmed.trim_eq, fun h => h ▸ isTrimmed_trim cs⟩

instance (cs : List Char) : Decidable (IsTrimmed cs) := decidable_of_iff _ isTrimmed_iff.symm

theorem trim_cons_of_isBlank {c : Char} (hc : isBlank c = true) (cs : List Char) :
    trim (c :: cs) = trim cs := by
  rw [trim, trimStart, List.dropWhile_cons_of_pos hc]
  rfl

/-! ### The last mark -/

theorem splitAtLast_append {mark : Char} (before : List Char) {after : List Char}
    (h : mark ∉ after) : splitAtLast mark (before ++ mark :: after) = some (before, after) := by
  have hreverse : (before ++ mark :: after).reverse = after.reverse ++ mark :: before.reverse := by
    simp
  rw [splitAtLast, hreverse, splitAtFirst_append _ (by simpa using h)]
  simp

end Text

open Text

/-! ### Signatures -/

namespace Signature

/-- What stands between the first `<` and the last `>`. -/
theorem inner?_append {before after : List Char} (hbefore : '<' ∉ before) (inside : List Char)
    (hafter : '>' ∉ after) :
    inner? (before ++ '<' :: (inside ++ '>' :: after)) = some inside := by
  simp only [inner?, splitAtFirst_append _ hbefore, Option.bind_eq_bind, Option.bind_some,
    splitAtLast_append inside hafter]
  rfl

theorem value?_append {key : List Char} (hkey : ',' ∉ key) (value : List Char) :
    value? (key ++ ',' :: value) = some value := by
  rw [value?, splitAtFirst_append _ hkey]
  rfl

/-- The marks of the container win over those of the base type. -/
theorem splitChars?_wrap {k : Container} (hk : k ≠ .none) (base : String) :
    splitChars? (wrap base k).toList = some (trim base.toList, k) := by
  cases k with
  | none => exact absurd rfl hk
  | list =>
    have htext : (wrap base .list).toList = "List".toList ++ '<' :: (base.toList ++ '>' :: []) := by
      simp [wrap]
    rw [htext, splitChars?, inner?_append (by decide) _ (by decide)]
    rfl
  | map =>
    have htext : (wrap base .map).toList =
        "Map".toList ++ '<' :: (("String".toList ++ ',' :: ' ' :: base.toList) ++ '>' :: []) := by
      simp [wrap]
    rw [htext]
    -- which container opens is read off the first letters, so what is inside need not be computed
    generalize hinside : "String".toList ++ ',' :: ' ' :: base.toList = inside
    have hlist : Container.list.opens ("Map".toList ++ '<' :: (inside ++ '>' :: [])) = false := rfl
    have hmap : Container.map.opens ("Map".toList ++ '<' :: (inside ++ '>' :: [])) = true := rfl
    rw [splitChars?, hlist, hmap, if_neg Bool.false_ne_true, if_pos rfl,
      inner?_append (by decide) _ (by decide), ← hinside, Option.bind_some,
      value?_append (by decide), Option.map_some, trim_cons_of_isBlank rfl]
  | set =>
    have htext : (wrap base .set).toList = "Set".toList ++ '<' :: (base.toList ++ '>' :: []) := by
      simp [wrap]
    rw [htext, splitChars?, inner?_append (by decide) _ (by decide)]
    rfl

theorem split?_wrap {k : Container} (hk : k ≠ .none) {base : String} (h : IsTrimmed base.toList) :
    split? (some (wrap base k)) = some ⟨base, k⟩ := by
  rw [split?, splitChars?_wrap hk, h.trim_eq]
  exact congrArg (fun b => some (SplitType.mk b k)) String.ofList_toList

/-- Whatever is split off is trimmed. -/
theorem isTrimmed_of_splitChars? {cs base : List Char} {k : Container}
    (h : splitChars? cs = some (base, k)) : IsTrimmed base := by
  have htrim : ∀ {x : Option (List Char)} {c : Container},
      x.map (fun t => (trim t, c)) = some (base, k) → IsTrimmed base := by
    intro x c hx
    obtain ⟨t, -, ht⟩ := Option.map_eq_some_iff.1 hx
    obtain ⟨rfl, -⟩ := Prod.mk.inj ht
    exact isTrimmed_trim t
  unfold splitChars? at h
  split at h
  · exact htrim h
  · split at h
    · exact htrim h
    · split at h
      · exact htrim h
      · cases h

theorem isTrimmed_of_split? {s : Option String} {t : SplitType} (h : split? s = some t) :
    IsTrimmed t.base.toList := by
  cases s with
  | none =>
    obtain rfl := Option.some.inj h
    decide +kernel
  | some s =>
    obtain ⟨⟨base, k⟩, hsplit, rfl⟩ := Option.map_eq_some_iff.1 h
    rw [String.toList_ofList]
    exact isTrimmed_of_splitChars? hsplit

/-- A signature as it is printed: a container around a trimmed base type. -/
def IsPrinted (s : String) : Prop :=
  ∃ b, IsTrimmed b.toList ∧
    (s = "List<" ++ b ++ ">" ∨ s = "Set<" ++ b ++ ">" ∨ s = "Map<String, " ++ b ++ ">")

theorem isPrinted_iff {s : String} :
    IsPrinted s ↔ ∃ b k, k ≠ .none ∧ IsTrimmed b.toList ∧ s = wrap b k := by
  constructor
  · rintro ⟨b, hb, rfl | rfl | rfl⟩
    · exact ⟨b, .list, by decide, hb, rfl⟩
    · exact ⟨b, .set, by decide, hb, rfl⟩
    · exact ⟨b, .map, by decide, hb, rfl⟩
  · rintro ⟨b, k, hk, hb, rfl⟩
    cases k with
    | none => exact absurd rfl hk
    | list => exact ⟨b, hb, .inl rfl⟩
    | map => exact ⟨b, hb, .inr (.inr rfl)⟩
    | set => exact ⟨b, hb, .inr (.inl rfl)⟩

/-- A signature is printed as it was exactly when it is in the printed form. -/
theorem isPrinted_iff_wrap_split? {s : String} :
    IsPrinted s ↔ ∃ t, split? (some s) = some t ∧ wrap t.base t.container = s := by
  rw [isPrinted_iff]
  constructor
  · rintro ⟨b, k, hk, hb, rfl⟩
    exact ⟨⟨b, k⟩, split?_wrap hk hb, rfl⟩
  · rintro ⟨t, ht, rfl⟩
    exact ⟨t.base, t.container, container_ne_none_of_split? ht, isTrimmed_of_split? ht, rfl⟩

end Signature

/-- An operation that declares a printed type answers with it. -/
theorem Operation.entityType_normalize {o : Operation} {s : String} (hs : Signature.IsPrinted s)
    (htype : o.returnType = some s) (hcontainer : o.returnContainer = .none) :
    o.normalize.entityType = s := by
  obtain ⟨t, ht, hwrap⟩ := Signature.isPrinted_iff_wrap_split?.1 hs
  rw [normalize_eq, entityType]
  dsimp only
  rw [htype, hcontainer, Signature.unwrap, ht]
  exact hwrap

namespace Signature

theorem split_wrap_of_split? {s : Option String} {t : SplitType} (h : split? s = some t) :
    split (some (wrap t.base t.container)) = t := by
  cases s with
  | none =>
    obtain rfl := Option.some.inj h
    rw [split, wrap, split?_void]
    rfl
  | some s =>
    rw [split, split?_wrap (container_ne_none_of_split? h) (isTrimmed_of_split? h)]
    rfl

/-- Splitting undoes wrapping, wrapping undoes splitting up to the form in which signatures are
printed, and a signature in that form is printed as it stands. -/
theorem wrap_inverse :
    (∀ (b : String) (k : Container), k ≠ .none → IsTrimmed b.toList →
      split? (some (wrap b k)) = some ⟨b, k⟩) ∧
    (∀ (s : Option String) (t : SplitType), split? s = some t →
      IsTrimmed t.base.toList ∧ split (some (wrap t.base t.container)) = t) ∧
    (∀ (s : String) (t : SplitType), split? (some s) = some t →
      split? (some (wrap t.base t.container)) = some t) ∧
    (∀ s : String, IsPrinted s ↔ ∃ t, split? (some s) = some t ∧ wrap t.base t.container = s) ∧
    ∀ (o : Operation) (s : String), IsPrinted s → o.returnType = some s →
      o.returnContainer = .none → o.normalize.entityType = s := by
  refine ⟨fun b k hk hb => split?_wrap hk hb,
    fun s t h => ⟨isTrimmed_of_split? h, split_wrap_of_split? h⟩, ?_,
    fun s => isPrinted_iff_wrap_split?, fun o s => Operation.entityType_normalize⟩
  intro s t h
  exact split?_wrap (container_ne_none_of_split? h) (isTrimmed_of_split? h)

theorem wrap_inverse_marks :
    let b := ">, List<A, B>,<"
    let s := "Map<String, >, List<A, B>,<>"
    let o : Operation :=
      { (default : Operation) with returnType := some s, returnContainer := .none }
    (IsTrimmed b.toList ∧ IsPrinted s ∧ split? (some s) = some ⟨b, .map⟩) ∧
      split? (some (wrap b .map)) = some ⟨b, .map⟩ ∧ split (some (wrap b .map)) = ⟨b, .map⟩ ∧
      (∃ t, split? (some s) = some t ∧ wrap t.base t.container = s) ∧
      o.normalize.entityType = s := by
  intro b s o
  have hb : IsTrimmed b.toList := by decide +kernel
  have hs : IsPrinted s := ⟨b, hb, .inr (.inr (by decide +kernel))⟩
  have hsplit : split? (some s) = some ⟨b, .map⟩ := by decide +kernel
  exact ⟨⟨hb, hs, hsplit⟩, wrap_inverse.2.2.1 s ⟨b, .map⟩ hsplit,
    (wrap_inverse.2.1 (some s) ⟨b, .map⟩ hsplit).2, (wrap_inverse.2.2.2.1 s).1 hs,
    wrap_inverse.2.2.2.2 o s hs rfl rfl⟩

end Signature

end SpringScaffold
