import Mathlib.Data.String.Basic
import SpringScaffold.Proofs.Fitting
import SpringScaffold.Proofs.Spelling

/-! Free values as they are read: their integers have 64 bits and their objects are sorted
(`Value.Canonical`). What was read from JSON is read again as itself (`Json.fitFree_again`). Any
other canonical value is read as itself if it is not nested too deep to be read at all
(`Json.eq_of_fitFree_ofValue`). -/

namespace SpringScaffold

/-- Items that are added one by one, each at the end as long as it is in relation to those
before. -/
theorem foldl_eq_append {α : Type} {R : α → α → Prop} {add : List α → α → List α}
    (hadd : ∀ acc a, (∀ b ∈ acc, R b a) → add acc a = acc ++ [a]) {acc l : List α}
    (h : (acc ++ l).Pairwise R) : l.foldl add acc = acc ++ l := by
  induction l generalizing acc with
  | nil => exact (List.append_nil acc).symm
  | cons a rest ih =>
    have hlast : ∀ b ∈ acc, R b a := fun b hb =>
      (List.pairwise_append.1 h).2.2 b hb a List.mem_cons_self
    rw [List.foldl_cons, hadd acc a hlast, ih, List.append_assoc, List.singleton_append]
    rwa [List.append_assoc, List.singleton_append]

theorem mem_or_mem_of_mem_foldl {α : Type} {add : List α → α → List α}
    (hadd : ∀ acc a b, b ∈ add acc a → b = a ∨ b ∈ acc) {acc l : List α} {b : α}
    (h : b ∈ l.foldl add acc) : b ∈ acc ∨ b ∈ l := by
  induction l generalizing acc with
  | nil => exact .inl h
  | cons a rest ih =>
    rcases ih h with h | h
    · rcases hadd acc a b h with rfl | h
      · exact .inr List.mem_cons_self
      · exact .inl h
    · exact .inr (List.mem_cons_of_mem _ h)

/-! ### Sorted members -/

namespace Value

/-- The keys go up. -/
def SortedByKey (ms : List (String × Value)) : Prop := ms.Pairwise fun a b => a.1 < b.1

theorem mem_putSorted {key : String} {v : Value} {ms : List (String × Value)}
    {m : String × Value} (h : m ∈ putSorted key v ms) : m = (key, v) ∨ m ∈ ms := by
  induction ms with
  | nil => exact .inl (List.mem_singleton.1 h)
  | cons n rest ih =>
    rw [putSorted] at h
    split at h
    · rcases List.mem_cons.1 h with h | h
      · exact .inl h
      · exact .inr (List.mem_cons_of_mem _ h)
    split at h
    · exact List.mem_cons.1 h
    · rcases List.mem_cons.1 h with rfl | h
      · exact .inr List.mem_cons_self
      · exact (ih h).imp_right (List.mem_cons_of_mem _)

theorem SortedByKey.putSorted {ms : List (String × Value)} (h : SortedByKey ms) (key : String)
    (v : Value) : SortedByKey (putSorted key v ms) := by
  induction ms with
  | nil => exact List.pairwise_singleton ..
  | cons n rest ih =>
    obtain ⟨k, w⟩ := n
    obtain ⟨hk, hrest⟩ := List.pairwise_cons.1 h
    rw [Value.putSorted]
    split
    · next he => exact List.pairwise_cons.2 ⟨fun m hm => he ▸ hk m hm, hrest⟩
    split
    · next hlt =>
      refine List.pairwise_cons.2 ⟨List.forall_mem_cons.2 ⟨hlt, fun m hm => ?_⟩, h⟩
      exact hlt.trans (hk m hm)
    · next hne hlt =>
      refine List.pairwise_cons.2 ⟨fun m hm => ?_, ih hrest⟩
      rcases mem_putSorted hm with rfl | hm
      · exact lt_of_le_of_ne (not_lt.1 hlt) (Ne.symm hne)
      · exact hk m hm

theorem putSorted_last {key : String} (v : Value) {ms : List (String × Value)}
    (h : ∀ m ∈ ms, m.1 < key) : Value.putSorted key v ms = ms ++ [(key, v)] := by
  induction ms with
  | nil => rfl
  | cons n rest ih =>
    obtain ⟨hn, hrest⟩ := List.forall_mem_cons.1 h
    rw [Value.putSorted, if_neg hn.ne', if_neg (not_lt.2 hn.le), ih hrest, List.cons_append]

theorem sortedByKey_sorted (ms : List (String × Value)) : SortedByKey (sorted ms) := by
  have hfold : ∀ acc, SortedByKey acc →
      SortedByKey (ms.foldl (fun acc m => Value.putSorted m.1 m.2 acc) acc) := by
    induction ms with
    | nil => exact fun _ h => h
    | cons m rest ih => exact fun acc h => ih _ (h.putSorted m.1 m.2)
  exact hfold [] List.Pairwise.nil

theorem mem_of_mem_sorted {ms : List (String × Value)} {m : String × Value} (h : m ∈ sorted ms) :
    m ∈ ms :=
  (mem_or_mem_of_mem_foldl (fun _ _ _ => mem_putSorted) h).resolve_left List.not_mem_nil

theorem SortedByKey.sorted_eq {ms : List (String × Value)} (h : SortedByKey ms) :
    sorted ms = ms :=
  foldl_eq_append (fun _ m hlast => putSorted_last m.2 hlast) h

/-- A value as it is read. -/
inductive Canonical : Value → Prop where
  | null : Canonical .null
  | bool (b : Bool) : Canonical (.bool b)
  | integer {i : Int} : Json.IsLong i → Canonical (.number (.integer i))
  | float (x : Binary64) : Canonical (.number (.float x))
  | text (s : String) : Canonical (.text s)
  | list {items : List Value} : (∀ v ∈ items, Canonical v) → Canonical (.list items)
  | object {members : List (String × Value)} : SortedByKey members →
    (∀ m ∈ members, Canonical m.2) → Canonical (.object members)

theorem Canonical.sorted {ms : List (String × Value)} (h : ∀ m ∈ ms, Canonical m.2) :
    Canonical (.object (sorted ms)) :=
  .object (sortedByKey_sorted ms) fun m hm => h m (mem_of_mem_sorted hm)

end Value

/-! ### Reading JSON -/

namespace Json

/-- Induction over a tree and what stands in it. -/
@[elab_as_elim]
theorem Tree.induction {P : Tree → Prop} (null : P .null) (bool : ∀ b, P (.bool b))
    (number : ∀ n, P (.number n)) (text : ∀ content, P (.text content))
    (list : ∀ items closed, (∀ t ∈ items, P t) → P (.list items closed))
    (object : ∀ members stray, (∀ m ∈ members, P m.2) → P (.object members stray))
    (broken : P .broken) (t : Tree) : P t :=
  match t with
  | .null => null
  | .bool b => bool b
  | .number n => number n
  | .text content => text content
  | .list items closed => list items closed fun t ht =>
    have := List.sizeOf_lt_of_mem ht
    Tree.induction null bool number text list object broken t
  | .object members stray => object members stray fun m hm =>
    have := List.sizeOf_lt_of_mem hm
    have : sizeOf m.2 < sizeOf m := by cases m; simp
    Tree.induction null bool number text list object broken m.2
  | .broken => broken
termination_by sizeOf t
decreasing_by all_goals simp; omega

theorem accumulate_lt {n : Nat} (h : n < twoTo 64) (ds : List Nat) :
    (Numeral.accumulate n ds).1 < twoTo 64 := by
  induction ds generalizing n with
  | nil => exact h
  | cons d rest ih =>
    rw [Numeral.accumulate]
    split
    · next hfits => exact ih hfits
    · exact h

theorem isLong_of_toNumber? {n : Numeral} {i : Int} (h : n.toNumber? = some (.integer i)) :
    IsLong i := by
  have hlt := accumulate_lt (by decide : 0 < twoTo 64) n.whole
  have htwo : twoTo 63 < twoTo 64 := by decide
  rw [Numeral.toNumber?] at h
  generalize Numeral.accumulate 0 n.whole = out at h hlt
  obtain ⟨whole, dropped⟩ := out
  dsimp only at h hlt
  have hfloat : ∀ x : Option Binary64, x.map Number.float ≠ some (.integer i) := by simp
  split at h
  · split at h
    · obtain rfl : (whole : Int) = i := by simpa using h
      constructor <;> omega
    split at h
    · exact absurd h (hfloat _)
    · next hsmall =>
      obtain rfl : -(whole : Int) = i := by simpa using h
      simp only [Bool.or_eq_true, decide_eq_true_eq, not_or] at hsmall
      constructor <;> omega
  · split at h
    · exact absurd h (hfloat _)
    split at h
    · split at h <;> simp at h
    · exact absurd h (hfloat _)

theorem fitFreeItems_eq_ok {depth : Nat} {items : List Tree} {vs : List Value} :
    fitFreeItems depth items = .ok vs ↔
      List.Forall₂ (fun t v => fitFree depth t = .ok v) items vs := by
  induction items generalizing vs with
  | nil => cases vs <;> simp [fitFreeItems]
  | cons t rest ih =>
    simp only [fitFreeItems, bind_eq_ok, List.forall₂_cons_left_iff, pure_eq_ok]
    constructor
    · rintro ⟨v, hv, ws, hws, rfl⟩
      exact ⟨v, ws, hv, ih.1 hws, rfl⟩
    · rintro ⟨v, ws, hv, hws, rfl⟩
      exact ⟨v, hv, ws, ih.2 hws, rfl⟩

theorem fitFreeMembers_eq_ok {depth : Nat} {ms : List (Option String × Tree)}
    {vs : List (String × Value)} :
    fitFreeMembers depth ms = .ok vs ↔
      List.Forall₂ (fun m v => m.1 = some v.1 ∧ fitFree depth m.2 = .ok v.2) ms vs := by
  induction ms generalizing vs with
  | nil => cases vs <;> simp [fitFreeMembers]
  | cons m rest ih =>
    obtain ⟨key, t⟩ := m
    simp only [fitFreeMembers, fitFreeMember, bind_eq_ok, List.forall₂_cons_left_iff, pure_eq_ok,
      fitKey_eq_ok]
    constructor
    · rintro ⟨_, ⟨name, hname, v, hv, rfl⟩, ws, hws, rfl⟩
      exact ⟨(name, v), ws, ⟨hname, hv⟩, ih.1 hws, rfl⟩
    · rintro ⟨⟨name, v⟩, ws, ⟨hname, hv⟩, hws, rfl⟩
      exact ⟨_, ⟨name, hname, v, hv, rfl⟩, ws, ih.2 hws, rfl⟩

theorem fitFree_list {depth : Nat} {items : List Tree} {closed : Bool} {v : Value} :
    fitFree depth (.list items closed) = .ok v ↔ depth ≠ 0 ∧ closed = true ∧
      ∃ vs, List.Forall₂ (fun t v => fitFree (depth - 1) t = .ok v) items vs ∧ v = .list vs := by
  rw [fitFree]
  split
  · next h => simp [h]
  · next h =>
    simp only [bind_closing_eq_ok, fitFreeItems_eq_ok, ne_eq, h, not_false_eq_true, true_and]

theorem fitFree_object {depth : Nat} {ms : List (Option String × Tree)} {stray : Option Tree}
    {v : Value} :
    fitFree depth (.object ms stray) = .ok v ↔ depth ≠ 0 ∧ stray = none ∧
      ∃ vs, List.Forall₂ (fun m v => m.1 = some v.1 ∧ fitFree (depth - 1) m.2 = .ok v.2) ms vs ∧
        v = .object (Value.sorted vs) := by
  rw [fitFree]
  split
  · next h => simp [h]
  · next h =>
    simp only [bind_closing_eq_ok, fitFreeMembers_eq_ok, Option.isNone_iff_eq_none, ne_eq, h,
      not_false_eq_true, true_and]

theorem exists_of_forall₂ {α β : Type} {R : α → β → Prop} {as : List α} {bs : List β}
    (h : List.Forall₂ R as bs) {b : β} (hb : b ∈ bs) : ∃ a ∈ as, R a b := by
  induction h with
  | nil => cases hb
  | cons hhead _ ih =>
    rcases List.mem_cons.1 hb with rfl | hb
    · exact ⟨_, List.mem_cons_self, hhead⟩
    · obtain ⟨a, ha, hab⟩ := ih hb
      exact ⟨a, List.mem_cons_of_mem _ ha, hab⟩

/-! ### Reading a value back -/

theorem Tree.ofValues_eq (vs : List Value) : Tree.ofValues vs = vs.map Tree.ofValue := by
  induction vs with
  | nil => rfl
  | cons v rest ih => rw [Tree.ofValues, ih, List.map_cons]

theorem Tree.ofMembers_eq (ms : List (String × Value)) :
    Tree.ofMembers ms = ms.map fun m => (some m.1, Tree.ofValue m.2) := by
  induction ms with
  | nil => rfl
  | cons m rest ih =>
    obtain ⟨key, v⟩ := m
    rw [Tree.ofMembers, ih, List.map_cons, Tree.ofMember]

theorem fitFree_ofList {depth : Nat} {vs : List Value} {v : Value} :
    fitFree depth (.ofValue (.list vs)) = .ok v ↔ depth ≠ 0 ∧ ∃ ws,
      List.Forall₂ (fun v w => fitFree (depth - 1) (.ofValue v) = .ok w) vs ws ∧ v = .list ws := by
  rw [Tree.ofValue, fitFree_list, Tree.ofValues_eq]
  simp only [true_and, List.forall₂_map_left_iff]

theorem fitFree_ofObject {depth : Nat} {ms : List (String × Value)} {v : Value} :
    fitFree depth (.ofValue (.object ms)) = .ok v ↔ depth ≠ 0 ∧ ∃ ns,
      List.Forall₂ (fun m n => m.1 = n.1 ∧ fitFree (depth - 1) (.ofValue m.2) = .ok n.2) ms ns ∧
        v = .object (Value.sorted ns) := by
  rw [Tree.ofValue, fitFree_object, Tree.ofMembers_eq]
  simp only [true_and, List.forall₂_map_left_iff, Option.some.injEq]

/-- What was read from JSON is read again as itself. -/
theorem fitFree_again {t : Tree} {depth : Nat} {v : Value} (h : fitFree depth t = .ok v)
    (hfree : v.FloatFree) : fitFree depth (.ofValue v) = .ok v := by
  induction t using Tree.induction generalizing depth v with
  | null =>
    obtain rfl := Except.ok.inj h
    rfl
  | bool b =>
    obtain rfl := Except.ok.inj h
    rfl
  | number n =>
    rw [fitFree] at h
    cases hn : n.toNumber? with
    | none => simp [hn] at h
    | some x =>
      obtain rfl : Value.number x = v := by simpa [hn] using h
      cases hfree with
      | integer i =>
        rw [Tree.ofValue_integer, fitFree, toNumber?_ofInt (isLong_of_toNumber? hn)]
        rfl
  | text content =>
    obtain ⟨s, -, rfl⟩ := map_eq_ok.1 h
    rfl
  | list items closed ih =>
    obtain ⟨hdepth, -, vs, hvs, rfl⟩ := fitFree_list.1 h
    cases hfree with
    | list hall =>
    refine fitFree_ofList.2 ⟨hdepth, vs, List.forall₂_same.2 fun v hv => ?_, rfl⟩
    obtain ⟨t, ht, hread⟩ := exists_of_forall₂ hvs hv
    exact ih t ht hread (hall v hv)
  | object members stray ih =>
    obtain ⟨hdepth, -, vs, hvs, rfl⟩ := fitFree_object.1 h
    cases hfree with
    | object hall =>
    refine fitFree_ofObject.2 ⟨hdepth, Value.sorted vs, List.forall₂_same.2 fun m hm => ?_, ?_⟩
    · obtain ⟨n, hn, -, hread⟩ := exists_of_forall₂ hvs (Value.mem_of_mem_sorted hm)
      exact ⟨rfl, ih n hn hread (hall m hm)⟩
    · rw [(Value.sortedByKey_sorted vs).sorted_eq]
  | broken => cases h

theorem forall₂_eq {α : Type} {R : α → α → Prop} {as bs : List α} (h : List.Forall₂ R as bs)
    (heq : ∀ a ∈ as, ∀ b, R a b → b = a) : bs = as := by
  induction h with
  | nil => rfl
  | cons hhead _ ih =>
    obtain ⟨ha, has⟩ := List.forall_mem_cons.1 heq
    rw [ha _ hhead, ih has]

/-- If a canonical value is read back at all, it is read as itself. -/
theorem eq_of_fitFree_ofValue {v w : Value} (hcanonical : v.Canonical) (hfree : v.FloatFree)
    {depth : Nat} (h : fitFree depth (.ofValue v) = .ok w) : w = v := by
  induction hcanonical generalizing depth w with
  | null => exact (Except.ok.inj h).symm
  | bool b => exact (Except.ok.inj h).symm
  | integer hlong =>
    rw [Tree.ofValue_integer, fitFree, toNumber?_ofInt hlong] at h
    exact (Except.ok.inj h).symm
  | float x => cases hfree
  | text s => exact (Except.ok.inj h).symm
  | list _ ih =>
    cases hfree with
    | list hall =>
    obtain ⟨-, ws, hws, rfl⟩ := fitFree_ofList.1 h
    rw [forall₂_eq hws fun v hv w hw => ih v hv (hall v hv) hw]
  | object hsorted _ ih =>
    cases hfree with
    | object hall =>
    obtain ⟨-, ns, hns, rfl⟩ := fitFree_ofObject.1 h
    have heq := forall₂_eq hns fun m hm n hn =>
      Prod.ext hn.1.symm (ih m hm (hall m hm) hn.2)
    rw [heq, hsorted.sorted_eq]

end Json

end SpringScaffold
