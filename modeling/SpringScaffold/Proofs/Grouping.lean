import Mathlib.Data.List.Nodup
import Mathlib.Data.List.Range
import SpringScaffold.Grouping
import SpringScaffold.Proofs.SplitOn

/-! The groups of a description are a partition of its operations
(`Spec.groupOperations_isPartition`). The groups after some operations have a closed form, one group
for each operation whose class name is new, and placing the next operation keeps it. -/

namespace SpringScaffold

namespace Operation

/-- A path segment that cannot be a key: an empty one or a variable. -/
def IsPlaceholder (segment : List Char) : Prop := segment = [] ∨ segment.head? = some '\x7b'

/-- What the key of an operation is: the name of its first tag, or the first segment of its path
that is no placeholder, and `default` where there is none. -/
inductive IsKey (o : Operation) : GroupBy → String → Prop
  | tagged {t : Tag} {rest : List Tag} (h : o.tags = t :: rest) : IsKey o .tag t.name
  | untagged (h : o.tags = []) : IsKey o .tag defaultKey
  | segment {before : List (List Char)} {s : List Char} {after : List (List Char)}
      (h : Text.IsSplit '/' o.path.toList (before ++ s :: after))
      (hbefore : ∀ p ∈ before, IsPlaceholder p) (hs : ¬ IsPlaceholder s) :
      IsKey o .route (String.ofList s)
  | noSegment {segments : List (List Char)} (h : Text.IsSplit '/' o.path.toList segments)
      (hall : ∀ p ∈ segments, IsPlaceholder p) : IsKey o .route defaultKey

theorem keep_segment_iff (segment : List Char) :
    (!segment.isEmpty && segment.head? != some '\x7b') = true ↔ ¬ IsPlaceholder segment := by
  simp [IsPlaceholder]

theorem isKey_routeKey (o : Operation) : o.IsKey .route o.routeKey := by
  have hsplit := Text.isSplit_splitOn '/' o.path.toList
  unfold routeKey
  cases h : (Text.splitOn ['/'] o.path.toList).filter
      (fun s => !s.isEmpty && s.head? != some '\x7b') with
  | nil =>
    refine .noSegment hsplit ?_
    intro p hp
    by_contra hk
    exact List.filter_eq_nil_iff.1 h p hp ((keep_segment_iff p).2 hk)
  | cons s rest =>
    obtain ⟨before, after, he, hbefore, hs, -⟩ := List.filter_eq_cons_iff.1 h
    refine .segment (he ▸ hsplit) ?_ ((keep_segment_iff s).1 hs)
    intro p hp
    by_contra hk
    exact hbefore p hp ((keep_segment_iff p).2 hk)

theorem isKey_key (o : Operation) (mode : GroupBy) : o.IsKey mode (o.key mode) := by
  cases mode with
  | route => exact o.isKey_routeKey
  | tag =>
    cases h : o.tags with
    | nil => simpa [key, tagKey, h] using IsKey.untagged h
    | cons t rest => simpa [key, tagKey, h] using IsKey.tagged h

theorem filter_placeholders {segments : List (List Char)} (h : ∀ p ∈ segments, IsPlaceholder p) :
    segments.filter (fun s => !s.isEmpty && s.head? != some '\x7b') = [] :=
  List.filter_eq_nil_iff.2 fun p hp hk => (keep_segment_iff p).1 hk (h p hp)

theorem IsKey.eq_key {o : Operation} {mode : GroupBy} {k : String} (h : o.IsKey mode k) :
    k = o.key mode := by
  cases h with
  | tagged h => simp [key, tagKey, h]
  | untagged h => simp [key, tagKey, h]
  | segment h hbefore hs =>
    simp only [key, routeKey]
    rw [← h.eq_splitOn, List.filter_append, filter_placeholders hbefore, List.nil_append,
      List.filter_cons, if_pos ((keep_segment_iff _).2 hs)]
    rfl
  | noSegment h hall =>
    simp only [key, routeKey]
    rw [← h.eq_splitOn, filter_placeholders hall]
    rfl

/-- Every operation has one key. -/
theorem isKey_iff (o : Operation) (mode : GroupBy) (k : String) :
    o.IsKey mode k ↔ k = o.key mode := by
  constructor
  · exact IsKey.eq_key
  · rintro rfl
    exact o.isKey_key mode

end Operation

namespace Group

theorem place_of_forall_ne {name : Name} {groups : List Group}
    (h : ∀ g ∈ groups, g.name.pascal ≠ name.pascal) (index : Nat) :
    place name index groups = groups ++ [⟨name, [index], none⟩] := by
  induction groups with
  | nil => rfl
  | cons g rest ih =>
    rw [place, if_neg (h g List.mem_cons_self), ih fun k hk => h k (List.mem_cons_of_mem _ hk)]
    rfl

/-- With one group for each class name, placing changes the group of that name alone. -/
theorem place_of_mem {name : Name} {groups : List Group}
    (hnodup : (groups.map (·.name.pascal)).Nodup) (h : name.pascal ∈ groups.map (·.name.pascal))
    (index : Nat) :
    place name index groups = groups.map fun g =>
      if g.name.pascal = name.pascal then { g with operations := g.operations ++ [index] }
      else g := by
  induction groups with
  | nil => simp at h
  | cons g rest ih =>
    rw [List.map_cons, List.nodup_cons] at hnodup
    by_cases hg : g.name.pascal = name.pascal
    · have hrest : ∀ k ∈ rest, k.name.pascal ≠ name.pascal := by
        intro k hk he
        exact hnodup.1 (by rw [hg, ← he]; exact List.mem_map_of_mem hk)
      have hsame : ∀ k ∈ rest, (if k.name.pascal = name.pascal then
          { k with operations := k.operations ++ [index] } else k) = id k :=
        fun k hk => if_neg (hrest k hk)
      rw [place, if_pos hg, List.map_cons, if_pos hg, List.map_congr_left hsame, List.map_id]
    · rw [place, if_neg hg, List.map_cons, if_neg hg]
      have hmem : name.pascal ∈ rest.map (·.name.pascal) := by
        rw [List.map_cons, List.mem_cons] at h
        exact h.resolve_left fun he => hg he.symm
      rw [ih hnodup.2 hmem]

end Group

section Closed

variable (label : Nat → String)

/-- The operations among the first `n` whose label is new. -/
def pioneers (n : Nat) : List Nat :=
  (List.range n).filter fun i => decide (∀ j < i, label j ≠ label i)

/-- The operations among the first `n` with the label of operation `i`. -/
def mates (n i : Nat) : List Nat := (List.range n).filter fun j => decide (label j = label i)

variable {label}

theorem mem_pioneers {n i : Nat} : i ∈ pioneers label n ↔ i < n ∧ ∀ j < i, label j ≠ label i := by
  simp [pioneers]

theorem mem_mates {n i j : Nat} : j ∈ mates label n i ↔ j < n ∧ label j = label i := by
  simp [mates]

theorem exists_pioneer {n j : Nat} (h : j < n) : ∃ i ∈ pioneers label n, label i = label j := by
  induction j using Nat.strongRecOn with
  | ind j ih =>
    by_cases hnew : ∀ i < j, label i ≠ label j
    · exact ⟨j, mem_pioneers.2 ⟨h, hnew⟩, rfl⟩
    · obtain ⟨i, hij, he⟩ : ∃ i, i < j ∧ label i = label j := by simpa using hnew
      obtain ⟨k, hk, hki⟩ := ih i hij (hij.trans h)
      exact ⟨k, hk, hki.trans he⟩

theorem pairwise_pioneers (n : Nat) : (pioneers label n).Pairwise (· < ·) :=
  List.pairwise_lt_range.filter _

theorem nodup_labels (n : Nat) : ((pioneers label n).map label).Nodup := by
  refine List.pairwise_map.2 ((pairwise_pioneers n).imp_of_mem ?_)
  intro i j _ hj hij
  exact (mem_pioneers.1 hj).2 i hij

theorem pioneers_succ (n : Nat) :
    pioneers label (n + 1) =
      pioneers label n ++ if ∀ j < n, label j ≠ label n then [n] else [] := by
  simp [pioneers, List.range_succ, List.filter_append, List.filter_cons]

theorem mates_succ (n i : Nat) :
    mates label (n + 1) i = mates label n i ++ if label n = label i then [n] else [] := by
  simp [mates, List.range_succ, List.filter_append, List.filter_cons]

/-- An operation whose label is new has no mates before it. -/
theorem mates_self {n : Nat} (h : ∀ j < n, label j ≠ label n) : mates label (n + 1) n = [n] := by
  have hnone : mates label n n = [] := by
    rw [List.eq_nil_iff_forall_not_mem]
    intro j hj
    exact h j (mem_mates.1 hj).1 (mem_mates.1 hj).2
  rw [mates_succ, if_pos rfl, hnone, List.nil_append]

/-- A pioneer is the first of its mates. -/
theorem min?_mates {n i : Nat} (h : i ∈ pioneers label n) : (mates label n i).min? = some i := by
  obtain ⟨hi, hnew⟩ := mem_pioneers.1 h
  refine List.min?_eq_some_iff.2 ⟨mem_mates.2 ⟨hi, rfl⟩, ?_⟩
  intro j hj
  by_contra hji
  exact hnew j (by omega) (mem_mates.1 hj).2

theorem nodup_mates (n i : Nat) : (mates label n i).Nodup := List.nodup_range.filter _

/-- The groups of mates hold every operation, and none holds one twice. -/
theorem perm_flatMap_mates (n : Nat) :
    ((pioneers label n).flatMap (mates label n)).Perm (List.range n) := by
  have hnodup : ((pioneers label n).flatMap (mates label n)).Nodup := by
    refine List.nodup_flatMap.2 ⟨fun i _ => nodup_mates n i, ?_⟩
    refine (List.pairwise_map.1 (nodup_labels n)).imp ?_
    intro i j hij k hki hkj
    exact hij ((mem_mates.1 hki).2.symm.trans (mem_mates.1 hkj).2)
  refine (List.perm_ext_iff_of_nodup hnodup List.nodup_range).2 fun j => ?_
  rw [List.mem_flatMap, List.mem_range]
  constructor
  · rintro ⟨i, -, hj⟩
    exact (mem_mates.1 hj).1
  · intro hj
    obtain ⟨i, hi, he⟩ := exists_pioneer hj
    exact ⟨i, hi, mem_mates.2 ⟨hj, he.symm⟩⟩

/-- Two operations have a group of mates in common exactly when their labels agree. -/
theorem exists_mates_iff {n i j : Nat} (hi : i < n) (hj : j < n) :
    (∃ k ∈ pioneers label n, i ∈ mates label n k ∧ j ∈ mates label n k) ↔ label i = label j := by
  constructor
  · rintro ⟨k, -, hik, hjk⟩
    exact (mem_mates.1 hik).2.trans (mem_mates.1 hjk).2.symm
  · intro he
    obtain ⟨k, hk, hki⟩ := exists_pioneer hi
    exact ⟨k, hk, mem_mates.2 ⟨hi, hki.symm⟩, mem_mates.2 ⟨hj, (hki.trans he).symm⟩⟩

end Closed

/-- The groups of the first `n` operations, where `name` gives the names of their keys. -/
def closedGroups (name : Nat → Name) (n : Nat) : List Group :=
  (pioneers (fun i => (name i).pascal) n).map fun i =>
    ⟨name i, mates (fun i => (name i).pascal) n i, none⟩

theorem labels_closedGroups (name : Nat → Name) (n : Nat) :
    (closedGroups name n).map (·.name.pascal) =
      (pioneers (fun i => (name i).pascal) n).map fun i => (name i).pascal := by
  rw [closedGroups, List.map_map]
  rfl

theorem place_closedGroups (name : Nat → Name) (n : Nat) :
    Group.place (name n) n (closedGroups name n) = closedGroups name (n + 1) := by
  by_cases hnew : ∀ j < n, (name j).pascal ≠ (name n).pascal
  · have hne : ∀ g ∈ closedGroups name n, g.name.pascal ≠ (name n).pascal := by
      intro g hg
      obtain ⟨i, hi, rfl⟩ := List.mem_map.1 hg
      exact hnew i (mem_pioneers.1 hi).1
    have hold : ∀ i ∈ pioneers (fun i => (name i).pascal) n,
        mates (fun i => (name i).pascal) (n + 1) i = mates (fun i => (name i).pascal) n i := by
      intro i hi
      rw [mates_succ, if_neg (hnew i (mem_pioneers.1 hi).1).symm, List.append_nil]
    rw [Group.place_of_forall_ne hne, closedGroups, closedGroups, pioneers_succ, if_pos hnew,
      List.map_append, List.map_singleton, mates_self hnew]
    congr 1
    apply List.map_congr_left
    intro i hi
    rw [hold i hi]
  · obtain ⟨j, hj, he⟩ : ∃ j, j < n ∧ (name j).pascal = (name n).pascal := by simpa using hnew
    have hmem : (name n).pascal ∈ (closedGroups name n).map (·.name.pascal) := by
      obtain ⟨i, hi, hij⟩ := @exists_pioneer (fun i => (name i).pascal) n j hj
      rw [labels_closedGroups]
      exact List.mem_map.2 ⟨i, hi, hij.trans he⟩
    have hnodup : ((closedGroups name n).map (·.name.pascal)).Nodup := by
      rw [labels_closedGroups]
      exact nodup_labels n
    rw [Group.place_of_mem hnodup hmem, closedGroups, closedGroups, pioneers_succ, if_neg hnew,
      List.append_nil, List.map_map]
    apply List.map_congr_left
    intro i _
    simp only [Function.comp_apply, mates_succ]
    by_cases hi : (name i).pascal = (name n).pascal
    · rw [if_pos hi, if_pos hi.symm]
    · rw [if_neg hi, if_neg fun h => hi h.symm, List.append_nil]

namespace Spec

variable (s : Spec) (mode : GroupBy)

/-- The name of the key of an operation, by its index. -/
def keyName (i : Nat) : Name :=
  ⟨((s.operations[i]?).map (·.key mode)).getD Operation.defaultKey⟩

variable {s mode}

theorem keyName_of_getElem? {i : Nat} {op : Operation} (h : s.operations[i]? = some op) :
    s.keyName mode i = ⟨op.key mode⟩ := by
  rw [keyName, h]
  rfl

/-- The loop invariant: after `n` operations the groups are those of the closed form. -/
theorem foldl_place_take {n : Nat} (h : n ≤ s.operations.length) :
    (s.operations.take n).zipIdx.foldl (fun groups (o, i) => Group.place ⟨o.key mode⟩ i groups) [] =
      closedGroups (s.keyName mode) n := by
  induction n with
  | zero => rfl
  | succ n ih =>
    have hn : n < s.operations.length := h
    have hstep := place_closedGroups (s.keyName mode) n
    rw [keyName_of_getElem? (List.getElem?_eq_getElem hn)] at hstep
    rw [List.take_succ_eq_append_getElem hn, List.zipIdx_append, List.foldl_append,
      ih (Nat.le_of_succ_le h), List.zipIdx_singleton, List.foldl_cons, List.foldl_nil,
      List.length_take_of_le hn.le, Nat.zero_add]
    exact hstep

theorem draftGroups_eq :
    s.draftGroups mode = closedGroups (s.keyName mode) s.operations.length := by
  have h := @foldl_place_take s mode _ (Nat.le_refl s.operations.length)
  rwa [List.take_length] at h

theorem groupOperations_eq :
    s.groupOperations mode =
      (closedGroups (s.keyName mode) s.operations.length).map s.describe := by
  rw [groupOperations, draftGroups_eq]

/-- The groups partition the operations by the Pascal case of their keys, in the order in which the
operations come. A group holds the indices of its operations and has the name of its first key. -/
structure IsPartition (s : Spec) (mode : GroupBy) (groups : List Group) : Prop where
  covering : (groups.flatMap (·.operations)).Perm (List.range s.operations.length)
  nonempty : ∀ g ∈ groups, g.operations ≠ []
  increasing : ∀ g ∈ groups, g.operations.Pairwise (· < ·)
  ordered : groups.Pairwise fun g h =>
    ∀ i ∈ g.operations.min?, ∀ j ∈ h.operations.min?, i < j
  shared : ∀ {i j a b}, s.operations[i]? = some a → s.operations[j]? = some b →
    ((∃ g ∈ groups, i ∈ g.operations ∧ j ∈ g.operations) ↔
      (Name.mk (a.key mode)).pascal = (Name.mk (b.key mode)).pascal)
  distinct : (groups.map (·.name.pascal)).Nodup
  named : ∀ g ∈ groups, ∃ i op, g.operations.min? = some i ∧ s.operations[i]? = some op ∧
    g.name = ⟨op.key mode⟩
  keyed : ∀ op ∈ s.operations, ∀ k, op.IsKey mode k ↔ k = op.key mode

theorem isPartition_closedGroups :
    s.IsPartition mode (closedGroups (s.keyName mode) s.operations.length) where
  covering := by
    rw [closedGroups, List.flatMap_map]
    exact perm_flatMap_mates _
  nonempty := by
    intro g hg
    obtain ⟨i, hi, rfl⟩ := List.mem_map.1 hg
    exact List.ne_nil_of_mem (mem_mates.2 ⟨(mem_pioneers.1 hi).1, rfl⟩)
  increasing := by
    intro g hg
    obtain ⟨i, -, rfl⟩ := List.mem_map.1 hg
    exact List.pairwise_lt_range.filter _
  ordered := by
    refine List.pairwise_map.2 ((pairwise_pioneers _).imp_of_mem ?_)
    intro i j hi hj hij k hk l hl
    rw [Option.mem_def, min?_mates hi, Option.some.injEq] at hk
    rw [Option.mem_def, min?_mates hj, Option.some.injEq] at hl
    omega
  shared := by
    intro i j a b ha hb
    have hi := (List.getElem?_eq_some_iff.1 ha).1
    have hj := (List.getElem?_eq_some_iff.1 hb).1
    rw [← keyName_of_getElem? ha, ← keyName_of_getElem? hb,
      ← @exists_mates_iff (fun i => (s.keyName mode i).pascal) _ i j hi hj]
    simp [closedGroups]
  distinct := by
    rw [labels_closedGroups]
    exact nodup_labels _
  named := by
    intro g hg
    obtain ⟨i, hi, rfl⟩ := List.mem_map.1 hg
    have hop := List.getElem?_eq_getElem (mem_pioneers.1 hi).1
    exact ⟨i, _, min?_mates hi, hop, keyName_of_getElem? hop⟩
  keyed := fun op _ => op.isKey_iff mode

/-- Describing the groups keeps their names and their operations. -/
theorem IsPartition.describe {groups : List Group} (h : s.IsPartition mode groups) :
    s.IsPartition mode (groups.map s.describe) := by
  obtain ⟨covering, nonempty, increasing, ordered, shared, distinct, named, keyed⟩ := h
  refine ⟨?_, ?_, ?_, ?_, ?_, ?_, ?_, keyed⟩
  · simpa [List.flatMap_map, Spec.describe] using covering
  · simpa [Spec.describe] using nonempty
  · simpa [Spec.describe] using increasing
  · simpa [List.pairwise_map, Spec.describe] using ordered
  · intro i j a b ha hb
    simpa [Spec.describe] using shared ha hb
  · simpa [Function.comp_def, Spec.describe] using distinct
  · simpa [Spec.describe] using named

/-- Grouping loses no operation and repeats none, whatever keys clash. -/
theorem groupOperations_isPartition (s : Spec) (mode : GroupBy) :
    s.IsPartition mode (s.groupOperations mode) := by
  rw [groupOperations, draftGroups_eq]
  exact isPartition_closedGroups.describe

end Spec

end SpringScaffold
