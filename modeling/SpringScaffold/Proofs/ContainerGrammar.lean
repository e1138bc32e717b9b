import SpringScaffold.Proofs.MapRuns
import SpringScaffold.Proofs.MapTypes

/-! Which signatures are split, told by their text alone (`Signature.split?_grammar`). What the
splitter takes for the inside of a signature is the one way to part the text at its first `<` and
its last `>`, and the words that containers begin with are no beginnings of each other, so no order
among them matters. Both marks are one byte long, so the inside is a slice of the text by bytes as
well. -/

namespace SpringScaffold

namespace Text

/-! ### Parting a text -/

theorem splitAtFirst_eq_some_iff {mark : Char} {cs before after : List Char} :
    splitAtFirst mark cs = some (before, after) ↔ cs = before ++ mark :: after ∧ mark ∉ before := by
  constructor
  · exact eq_append_of_splitAtFirst
  · rintro ⟨rfl, hmark⟩
    exact splitAtFirst_append after hmark

theorem splitAtLast_eq_some_iff {mark : Char} {cs before after : List Char} :
    splitAtLast mark cs = some (before, after) ↔ cs = before ++ mark :: after ∧ mark ∉ after := by
  constructor
  · intro h
    obtain ⟨⟨a, b⟩, hsplit, he⟩ := Option.map_eq_some_iff.1 h
    obtain ⟨rfl, rfl⟩ := Prod.mk.inj he
    obtain ⟨hcs, hmark⟩ := eq_append_of_splitAtFirst hsplit
    refine ⟨?_, by simpa using hmark⟩
    rw [← List.reverse_reverse cs, hcs]
    simp
  · rintro ⟨rfl, hmark⟩
    exact splitAtLast_append before hmark

/-- The text without the white space at its ends. -/
def IsTrimOf (base cs : List Char) : Prop :=
  IsTrimmed base ∧ ∃ before after, cs = before ++ (base ++ after) ∧ IsGap before ∧ IsGap after

theorem isTrimOf_trim (cs : List Char) : IsTrimOf (trim cs) cs := by
  have hstart : cs.takeWhile isBlank ++ trimStart cs = cs := List.takeWhile_append_dropWhile
  have hend : ∀ ds : List Char, trimEnd ds ++ (ds.reverse.takeWhile isBlank).reverse = ds := by
    intro ds
    rw [trimEnd, ← List.reverse_append, List.takeWhile_append_dropWhile, List.reverse_reverse]
  refine ⟨isTrimmed_trim cs, cs.takeWhile isBlank,
    ((trimStart cs).reverse.takeWhile isBlank).reverse, ?_, ?_, ?_⟩
  · rw [trim, hend, hstart]
  · exact fun c hc => List.mem_takeWhile_imp hc
  · exact fun c hc => List.mem_takeWhile_imp (List.mem_reverse.1 hc)

theorem IsTrimOf.eq_trim {base cs : List Char} (h : IsTrimOf base cs) : base = trim cs := by
  obtain ⟨htrimmed, before, after, rfl, hbefore, hafter⟩ := h
  rw [trim, trimStart_append_of_isGap hbefore]
  by_cases hbase : base = []
  · rw [hbase, List.nil_append, trimStart_of_isGap hafter]
    rfl
  · have hhead : ∀ c ∈ (base ++ after).head?, isBlank c = false := by
      rw [List.head?_append_of_ne_nil _ hbase]
      exact htrimmed.first
    have hend := htrimmed.trimEnd_append hbase []
    rw [List.nil_append] at hend
    rw [trimStart_of_head? hhead, trimEnd_append_of_isGap hafter, hend]

/-! ### Places by bytes -/

/-- The mark stands at this byte, and nowhere before. -/
def IsFirstAt (mark : Char) (s : String) (i : Nat) : Prop :=
  ∃ before after : String, s = before ++ String.singleton mark ++ after ∧
    mark ∉ before.toList ∧ i = before.utf8ByteSize

/-- The mark stands at this byte, and nowhere behind. -/
def IsLastAt (mark : Char) (s : String) (i : Nat) : Prop :=
  ∃ before after : String, s = before ++ String.singleton mark ++ after ∧
    mark ∉ after.toList ∧ i = before.utf8ByteSize

/-- The bytes from `lo` up to `hi` are there, do not begin or end inside a character, and make up
this text. -/
def IsSlice (s : String) (lo hi : Nat) (slice : String) : Prop :=
  ∃ before after : String, s = before ++ slice ++ after ∧ lo = before.utf8ByteSize ∧
    hi = lo + slice.utf8ByteSize

/-- Of two different marks one stands before the other, with what is between them. -/
theorem append_cons_eq_append_cons {a b : Char} (hab : a ≠ b)
    {before₁ after₁ before₂ after₂ : List Char}
    (h : before₁ ++ a :: after₁ = before₂ ++ b :: after₂) :
    (∃ between, before₂ = before₁ ++ a :: between ∧ after₁ = between ++ b :: after₂) ∨
      ∃ between, before₁ = before₂ ++ b :: between ∧ after₂ = between ++ a :: after₁ := by
  rcases List.append_eq_append_iff.1 h with ⟨between, hbefore, hafter⟩ | ⟨between, hbefore, hafter⟩
  · cases between with
    | nil => exact absurd (List.cons.inj hafter).1 hab
    | cons c between =>
      obtain ⟨rfl, rfl⟩ := List.cons.inj hafter
      exact .inl ⟨between, hbefore, rfl⟩
  · cases between with
    | nil => exact absurd (List.cons.inj hafter).1.symm hab
    | cons c between =>
      obtain ⟨rfl, rfl⟩ := List.cons.inj hafter
      exact .inr ⟨between, hbefore, rfl⟩

theorem append_mark_eq_append_mark {a b : Char} (hab : a ≠ b)
    {before₁ after₁ before₂ after₂ : String}
    (h : before₁ ++ String.singleton a ++ after₁ = before₂ ++ String.singleton b ++ after₂) :
    (∃ between, before₂ = before₁ ++ String.singleton a ++ between ∧
      after₁ = between ++ String.singleton b ++ after₂) ∨
      ∃ between, before₁ = before₂ ++ String.singleton b ++ between ∧
        after₂ = between ++ String.singleton a ++ after₁ := by
  have hlists : before₁.toList ++ a :: after₁.toList = before₂.toList ++ b :: after₂.toList := by
    simpa using congrArg String.toList h
  rcases append_cons_eq_append_cons hab hlists with
    ⟨between, hbefore, hafter⟩ | ⟨between, hbefore, hafter⟩
  · refine .inl ⟨String.ofList between, ?_, ?_⟩ <;> simp [← String.toList_inj, hbefore, hafter]
  · refine .inr ⟨String.ofList between, ?_, ?_⟩ <;> simp [← String.toList_inj, hbefore, hafter]

theorem utf8ByteSize_append_mark {mark : Char} (hmark : mark.utf8Size = 1)
    (before after : String) :
    (before ++ String.singleton mark ++ after).utf8ByteSize =
      before.utf8ByteSize + 1 + after.utf8ByteSize := by
  rw [String.utf8ByteSize_append, String.utf8ByteSize_append, String.utf8ByteSize_singleton, hmark]

end Text

open Text

namespace Container

theorem opens_iff {k : Container} {cs : List Char} :
    k.opens cs = true ↔ ∃ opening ∈ k.openings, opening.toList <+: cs := by
  simp [opens]

/-- No container begins like another one. -/
theorem eq_of_opens {k l : Container} {cs : List Char} (hk : k.opens cs = true)
    (hl : l.opens cs = true) : k = l := by
  have hopenings : ∀ k ∈ all, ∀ l ∈ all, ∀ a ∈ k.openings, ∀ b ∈ l.openings,
      a.toList <+: b.toList → k = l := by decide
  have hall : ∀ k : Container, k ∈ all := by
    intro k
    cases k <;> decide
  obtain ⟨a, ha, hacs⟩ := opens_iff.1 hk
  obtain ⟨b, hb, hbcs⟩ := opens_iff.1 hl
  rcases List.prefix_or_prefix_of_prefix hacs hbcs with hab | hba
  · exact hopenings k (hall k) l (hall l) a ha b hb hab
  · exact (hopenings l (hall l) k (hall k) b hb a ha hba).symm

end Container

namespace Signature

/-- What stands between the first `<` and the last `>` behind it. -/
def IsInside (inside cs : List Char) : Prop :=
  ∃ before after, cs = before ++ '<' :: (inside ++ '>' :: after) ∧ '<' ∉ before ∧ '>' ∉ after

/-- The signature begins like one of the container, and this is the part of it that holds the base
type: what is inside, and for a map what is inside behind the first comma. -/
inductive HasContent (cs : List Char) : Container → List Char → Prop
  | list {inside : List Char} (hopening : "List".toList <+: cs ∨ "java.util.List".toList <+: cs)
      (hinside : IsInside inside cs) : HasContent cs .list inside
  | map {key value : List Char} (hopening : "Map".toList <+: cs ∨ "java.util.Map".toList <+: cs)
      (hinside : IsInside (key ++ ',' :: value) cs) (hkey : ',' ∉ key) : HasContent cs .map value
  | set {inside : List Char} (hopening : "Set".toList <+: cs ∨ "java.util.Set".toList <+: cs)
      (hinside : IsInside inside cs) : HasContent cs .set inside

variable {cs : List Char} {k : Container} {content : List Char}

theorem inner?_eq_some_iff {inside : List Char} :
    inner? cs = some inside ↔ IsInside inside cs := by
  constructor
  · intro h
    simp only [inner?, Option.bind_eq_bind, Option.bind_eq_some_iff] at h
    obtain ⟨⟨before, rest⟩, hfirst, ⟨part, after⟩, hlast, he⟩ := h
    obtain rfl := Option.some.inj he
    obtain ⟨rfl, hbefore⟩ := splitAtFirst_eq_some_iff.1 hfirst
    obtain ⟨rfl, hafter⟩ := splitAtLast_eq_some_iff.1 hlast
    exact ⟨before, after, rfl, hbefore, hafter⟩
  · rintro ⟨before, after, rfl, hbefore, hafter⟩
    exact inner?_append hbefore inside hafter

theorem value?_eq_some_iff {value : List Char} :
    value? cs = some value ↔ ∃ key, cs = key ++ ',' :: value ∧ ',' ∉ key := by
  constructor
  · intro h
    obtain ⟨⟨key, rest⟩, hsplit, rfl⟩ := Option.map_eq_some_iff.1 h
    exact ⟨key, splitAtFirst_eq_some_iff.1 hsplit⟩
  · rintro ⟨key, rfl, hkey⟩
    exact value?_append hkey value

/-- The content in the words of the splitter. -/
def content? (cs : List Char) : Container → Option (List Char)
  | .none => none
  | .map => (inner? cs).bind value?
  | .list | .set => inner? cs

theorem hasContent_iff :
    HasContent cs k content ↔ k.opens cs = true ∧ content? cs k = some content := by
  rw [Container.opens_iff]
  constructor
  · intro h
    cases h with
    | list hopening hinside =>
      exact ⟨by simpa [Container.openings] using hopening, inner?_eq_some_iff.2 hinside⟩
    | set hopening hinside =>
      exact ⟨by simpa [Container.openings] using hopening, inner?_eq_some_iff.2 hinside⟩
    | map hopening hinside hkey =>
      refine ⟨by simpa [Container.openings] using hopening, ?_⟩
      rw [content?, inner?_eq_some_iff.2 hinside, Option.bind_some, value?_append hkey]
  · rintro ⟨hopening, h⟩
    cases k with
    | none => cases h
    | list =>
      exact .list (by simpa [Container.openings] using hopening) (inner?_eq_some_iff.1 h)
    | set =>
      exact .set (by simpa [Container.openings] using hopening) (inner?_eq_some_iff.1 h)
    | map =>
      obtain ⟨inside, hinside, hvalue⟩ := Option.bind_eq_some_iff.1 h
      obtain ⟨key, rfl, hkey⟩ := value?_eq_some_iff.1 hvalue
      exact .map (by simpa [Container.openings] using hopening) (inner?_eq_some_iff.1 hinside) hkey

/-- A signature is split as the container that it begins like, whichever is tried first. -/
theorem splitChars?_of_opens (h : k.opens cs = true) :
    splitChars? cs = (content? cs k).map fun content => (trim content, k) := by
  have hother : ∀ l, l ≠ k → l.opens cs = false := by
    intro l hl
    rw [Bool.eq_false_iff]
    exact fun hopens => hl (Container.eq_of_opens hopens h)
  cases k with
  | none => simp [Container.opens, Container.openings] at h
  | list => rw [splitChars?, if_pos h, content?]
  | map =>
    rw [splitChars?, hother .list (by decide), if_neg Bool.false_ne_true, if_pos h, content?]
  | set =>
    rw [splitChars?, hother .list (by decide), hother .map (by decide), if_neg Bool.false_ne_true,
      if_neg Bool.false_ne_true, if_pos h, content?]

theorem splitChars?_of_hasContent (h : HasContent cs k content) :
    splitChars? cs = some (trim content, k) := by
  obtain ⟨hopens, hcontent⟩ := hasContent_iff.1 h
  rw [splitChars?_of_opens hopens, hcontent, Option.map_some]

theorem exists_hasContent {base : List Char} (h : splitChars? cs = some (base, k)) :
    ∃ content, HasContent cs k content := by
  obtain ⟨l, hopens⟩ : ∃ l : Container, l.opens cs = true := by
    by_contra hnone
    have hfalse : ∀ l : Container, l.opens cs = false := by
      intro l
      rw [Bool.eq_false_iff]
      exact fun hopens => hnone ⟨l, hopens⟩
    rw [splitChars?, hfalse, hfalse, hfalse] at h
    cases h
  rw [splitChars?_of_opens hopens] at h
  obtain ⟨content, hcontent, he⟩ := Option.map_eq_some_iff.1 h
  obtain ⟨-, rfl⟩ := Prod.mk.inj he
  exact ⟨content, hasContent_iff.2 ⟨hopens, hcontent⟩⟩

/-- Marks in front of the content are left out of it, so the base type is shorter than the text. -/
theorem HasContent.exists_eq_append (h : HasContent cs k content) :
    ∃ before after, before ≠ [] ∧ cs = before ++ (content ++ after) := by
  have hpart : ∀ key : List Char, IsInside (key ++ content) cs →
      ∃ before after, before ≠ [] ∧ cs = before ++ (content ++ after) := by
    rintro key ⟨before, after, rfl, -, -⟩
    exact ⟨before ++ '<' :: key, '>' :: after, by simp, by simp⟩
  cases h with
  | list _ hinside => exact hpart [] hinside
  | set _ hinside => exact hpart [] hinside
  | @map key _ _ hinside _ => exact hpart (key ++ [',']) (by simpa using hinside)

theorem HasContent.shorter {s base : String} (h : HasContent s.toList k content)
    (hbase : IsTrimOf base.toList content) :
    base.length < s.length ∧ base.utf8ByteSize < s.utf8ByteSize := by
  obtain ⟨front, back, hfront, hs⟩ := h.exists_eq_append
  obtain ⟨-, before, after, rfl, -, -⟩ := hbase
  obtain ⟨start, hstart, rest, rfl⟩ :
      ∃ start : String, start ≠ "" ∧ ∃ rest, s = start ++ base ++ rest := by
    refine ⟨String.ofList (front ++ before), ?_, String.ofList (after ++ back), ?_⟩
    · intro hempty
      have hlist := congrArg String.toList hempty
      simp [hfront] at hlist
    · rw [← String.toList_inj, hs]
      simp
  have hlength : start.length ≠ 0 := String.length_eq_zero_iff.not.2 hstart
  have hbytes : start.utf8ByteSize ≠ 0 := String.utf8ByteSize_eq_zero_iff.not.2 hstart
  simp only [String.length_append, String.utf8ByteSize_append]
  omega

theorem inner?_eq_none {before rest : List Char} (hbefore : '<' ∉ before) (hrest : '>' ∉ rest) :
    inner? (before ++ '<' :: rest) = none := by
  rw [Option.eq_none_iff_forall_not_mem]
  intro inside h
  obtain ⟨before', after, hcs, hbefore', -⟩ := inner?_eq_some_iff.1 h
  have hfirst := splitAtFirst_append rest hbefore
  rw [hcs, splitAtFirst_append _ hbefore'] at hfirst
  obtain ⟨-, rfl⟩ := Prod.mk.inj (Option.some.inj hfirst)
  exact hrest (by simp)

/-- The inside by bytes, as long as the marks come in their order. -/
theorem inner?_eq_slice {s : String} {i j : Nat} (hi : IsFirstAt '<' s i) (hj : IsLastAt '>' s j) :
    (i < j → ∃ inside, IsSlice s (i + 1) j inside ∧ inner? s.toList = some inside.toList) ∧
      (j ≤ i → inner? s.toList = none) := by
  obtain ⟨before, rest, hs, hbefore, rfl⟩ := hi
  obtain ⟨front, after, hs', hafter, rfl⟩ := hj
  rcases append_mark_eq_append_mark (by decide) (hs.symm.trans hs') with
    ⟨inside, hfront, hrest⟩ | ⟨between, hbefore', hafter'⟩
  · have hsize : front.utf8ByteSize = before.utf8ByteSize + 1 + inside.utf8ByteSize := by
      rw [hfront, utf8ByteSize_append_mark (by decide)]
    refine ⟨fun _ => ⟨inside, ?_, ?_⟩, fun hle => by omega⟩
    · refine ⟨before ++ String.singleton '<', String.singleton '>' ++ after, ?_, ?_, hsize⟩
      · rw [hs', hfront, String.append_assoc]
      · simpa using (@utf8ByteSize_append_mark '<' (by decide) before "").symm
    · rw [inner?_eq_some_iff]
      refine ⟨before.toList, after.toList, ?_, hbefore, hafter⟩
      rw [hs, hrest]
      simp
  · have hsize : before.utf8ByteSize = front.utf8ByteSize + 1 + between.utf8ByteSize := by
      rw [hbefore', utf8ByteSize_append_mark (by decide)]
    refine ⟨fun hlt => by omega, fun _ => ?_⟩
    have hrest : '>' ∉ rest.toList := by
      intro hmem
      rw [hafter'] at hafter
      exact hafter (by simp [hmem])
    simpa [hs] using inner?_eq_none hbefore hrest

theorem split?_of_hasContent {s base : String} (h : HasContent s.toList k content)
    (hbase : IsTrimOf base.toList content) : split? (some s) = some ⟨base, k⟩ := by
  rw [split?, splitChars?_of_hasContent h, ← hbase.eq_trim]
  exact congrArg (fun b => some (SplitType.mk b k)) String.ofList_toList

/-- Just the signatures of the grammar are split, as their beginning says and at bytes that can be
sliced. All others are their own base type. -/
theorem split?_grammar (s : String) :
    ((∃ t, split? (some s) = some t) ↔ ∃ k content, HasContent s.toList k content) ∧
    (∀ k content, HasContent s.toList k content →
      ∃ base : String, IsTrimOf base.toList content ∧ split? (some s) = some ⟨base, k⟩ ∧
        split (some s) = ⟨base, k⟩ ∧ k ≠ .none ∧
        base.length < s.length ∧ base.utf8ByteSize < s.utf8ByteSize) ∧
    ((∀ k content, ¬ HasContent s.toList k content) → split (some s) = ⟨s, .none⟩) ∧
    ∀ i j, IsFirstAt '<' s i → IsLastAt '>' s j →
      (i < j → ∃ inside, IsSlice s (i + 1) j inside ∧ inner? s.toList = some inside.toList) ∧
      (j ≤ i → inner? s.toList = none) := by
  have htrim : ∀ content, IsTrimOf (String.ofList (trim content)).toList content := by
    intro content
    rw [String.toList_ofList]
    exact isTrimOf_trim content
  have hexists : (∃ t, split? (some s) = some t) ↔ ∃ k content, HasContent s.toList k content := by
    constructor
    · rintro ⟨t, ht⟩
      obtain ⟨⟨base, k⟩, hsplit, -⟩ := Option.map_eq_some_iff.1 ht
      exact ⟨k, exists_hasContent hsplit⟩
    · rintro ⟨k, content, h⟩
      exact ⟨_, split?_of_hasContent h (htrim content)⟩
  refine ⟨hexists, ?_, ?_, fun i j hi hj => inner?_eq_slice hi hj⟩
  · intro k content h
    have hsplit := split?_of_hasContent h (htrim content)
    refine ⟨_, htrim content, hsplit, ?_, container_ne_none_of_split? hsplit,
      h.shorter (htrim content)⟩
    rw [split, hsplit, Option.getD_some]
  · intro hnone
    have hsplit : split? (some s) = none := by
      rw [Option.eq_none_iff_forall_not_mem]
      intro t ht
      obtain ⟨k, content, h⟩ := hexists.1 ⟨t, ht⟩
      exact hnone k content h
    rw [split, hsplit, Option.getD_none, Option.getD_some]

/-- A map whose base type is longer in bytes than in characters, and a set whose marks are
crossed. -/
theorem split?_grammar_crossed :
    let s := "Map<Ключ, Größe >"
    let crossed := "Set>Tag<"
    (HasContent s.toList .map " Größe ".toList ∧ IsFirstAt '<' s 3 ∧ IsLastAt '>' s 22 ∧
      ∀ k content, ¬ HasContent crossed.toList k content) ∧
    (∃ base : String, IsTrimOf base.toList " Größe ".toList ∧ split? (some s) = some ⟨base, .map⟩ ∧
      base.length < s.length) ∧
    (∃ inside, IsSlice s 4 22 inside ∧ inner? s.toList = some inside.toList) ∧
    split (some crossed) = ⟨crossed, .none⟩ := by
  intro s crossed
  have hcontent : HasContent s.toList .map " Größe ".toList := by
    have hinside : IsInside ("Ключ".toList ++ ',' :: " Größe ".toList) s.toList :=
      ⟨"Map".toList, [], by decide, by decide, by decide⟩
    exact .map (.inl (by decide)) hinside (by decide)
  have hfirst : IsFirstAt '<' s 3 := ⟨"Map", "Ключ, Größe >", by decide, by decide, by decide⟩
  have hlast : IsLastAt '>' s 22 := ⟨"Map<Ключ, Größe ", "", by decide, by decide, by decide⟩
  have hcrossed : ∀ k content, ¬ HasContent crossed.toList k content := by
    intro k content h
    obtain ⟨t, ht⟩ := (split?_grammar crossed).1.2 ⟨k, content, h⟩
    revert ht
    have hnone : split? (some crossed) = none := by decide
    rw [hnone]
    exact nofun
  obtain ⟨base, htrim, hsplit, -, -, hlength, -⟩ := (split?_grammar s).2.1 _ _ hcontent
  exact ⟨⟨hcontent, hfirst, hlast, hcrossed⟩, ⟨base, htrim, hsplit, hlength⟩,
    ((split?_grammar s).2.2.2 3 22 hfirst hlast).1 (by decide),
    (split?_grammar crossed).2.2.1 hcrossed⟩

end Signature

end SpringScaffold
