import SpringScaffold.Proofs.Grouping

/-! What describes a group, and which groups the log warns about (`Spec.groups_described`). Only the
later operations of a group are compared, each with the first one alone. That is enough: values that
all equal the first one equal each other (`exists_ne_iff_exists_ne_head`). -/

namespace SpringScaffold

theorem exists_ne_iff_exists_ne_head {α β : Type} (f : α → β) (x : α) (xs : List α) :
    (∃ y ∈ x :: xs, ∃ z ∈ x :: xs, f y ≠ f z) ↔ ∃ y ∈ xs, f y ≠ f x := by
  constructor
  · rintro ⟨y, hy, z, hz, hne⟩
    by_contra hsame
    have heq : ∀ w ∈ x :: xs, f w = f x := by
      refine List.forall_mem_cons.2 ⟨rfl, fun w hw => ?_⟩
      by_contra hw'
      exact hsame ⟨w, hw, hw'⟩
    exact hne ((heq y hy).trans (heq z hz).symm)
  · rintro ⟨y, hy, hne⟩
    exact ⟨y, List.mem_cons_of_mem _ hy, x, List.mem_cons_self, hne⟩

namespace Operation

/-- What the first tag of an operation says about its group: nothing where there is no tag, or where
the tag has no description. -/
inductive IsDescribed (o : Operation) : Option String → Prop
  | tagged {t : Tag} {rest : List Tag} (h : o.tags = t :: rest) : IsDescribed o t.description
  | untagged (h : o.tags = []) : IsDescribed o none

theorem isDescribed_iff (o : Operation) (d : Option String) :
    o.IsDescribed d ↔ d = o.firstDescription := by
  constructor
  · intro h
    cases h with
    | tagged h => simp [firstDescription, h]
    | untagged h => simp [firstDescription, h]
  · rintro rfl
    cases h : o.tags with
    | nil => simpa [firstDescription, h] using IsDescribed.untagged h
    | cons t rest => simpa [firstDescription, h] using IsDescribed.tagged h

end Operation

namespace Spec

variable (s : Spec)

/-- The group has the description of its operation with the smallest index. -/
def IsDescribed (g : Group) : Prop :=
  ∃ i op, g.operations.min? = some i ∧ s.operations[i]? = some op ∧ op.IsDescribed g.description

/-- Some two operations of the group are described in different ways. -/
def Disagrees (g : Group) : Prop :=
  ∃ i ∈ g.operations, ∃ j ∈ g.operations, ∃ a b d e,
    s.operations[i]? = some a ∧ s.operations[j]? = some b ∧
      a.IsDescribed d ∧ b.IsDescribed e ∧ d ≠ e

/-- The log warns once about each group that disagrees, in the order of the groups, and holds
nothing else. -/
inductive Warns : List Group → List LogEntry → Prop
  | nil : Warns [] []
  | disagree {g : Group} {groups : List Group} {log : List LogEntry} (hg : s.Disagrees g)
      (hrest : Warns groups log) :
      Warns (g :: groups) (.differingDescriptions g.name.written :: log)
  | agree {g : Group} {groups : List Group} {log : List LogEntry} (hg : ¬ s.Disagrees g)
      (hrest : Warns groups log) : Warns (g :: groups) log

variable {s} {mode : GroupBy}

theorem descriptionAt_of_getElem? {i : Nat} {op : Operation} (h : s.operations[i]? = some op) :
    s.descriptionAt i = op.firstDescription := by
  rw [descriptionAt, h, Option.bind_some]

/-- What is known of a described group: it begins with its smallest index, and all its indices are
those of operations. -/
theorem exists_operations_eq_cons {g : Group} (hg : g ∈ s.groupOperations mode) :
    ∃ i rest, g.operations = i :: rest ∧ g.operations.min? = some i ∧
      (∀ j ∈ i :: rest, j < s.operations.length) ∧ g.description = s.descriptionAt i := by
  have hpartition := s.groupOperations_isPartition mode
  obtain ⟨draft, -, rfl⟩ := List.mem_map.1 hg
  obtain ⟨i, rest, hcons⟩ := List.exists_cons_of_ne_nil (hpartition.nonempty _ hg)
  have hincreasing := hpartition.increasing _ hg
  rw [hcons, List.pairwise_cons] at hincreasing
  refine ⟨i, rest, hcons, ?_, ?_, ?_⟩
  · rw [hcons, List.min?_eq_some_iff, List.forall_mem_cons]
    exact ⟨List.mem_cons_self, Nat.le_refl i, fun j hj => (hincreasing.1 j hj).le⟩
  · intro j hj
    rw [← hcons] at hj
    exact List.mem_range.1 (hpartition.covering.subset (List.mem_flatMap.2 ⟨_, hg, hj⟩))
  · have hhead : draft.operations = i :: rest := hcons
    rw [describe, hhead]
    rfl

theorem isDescribed_of_mem_groupOperations {g : Group} (hg : g ∈ s.groupOperations mode) :
    s.IsDescribed g := by
  obtain ⟨i, rest, -, hmin, hlt, hdescription⟩ := exists_operations_eq_cons hg
  have hop := List.getElem?_eq_getElem (hlt i List.mem_cons_self)
  refine ⟨i, _, hmin, hop, (Operation.isDescribed_iff _ _).2 ?_⟩
  rw [hdescription, descriptionAt_of_getElem? hop]

/-- All indices lead to operations, so the two ways to look a description up agree. -/
theorem disagrees_iff {g : Group} (hlt : ∀ i ∈ g.operations, i < s.operations.length) :
    s.Disagrees g ↔
      ∃ i ∈ g.operations, ∃ j ∈ g.operations, s.descriptionAt i ≠ s.descriptionAt j := by
  constructor
  · rintro ⟨i, hi, j, hj, a, b, d, e, ha, hb, hd, he, hne⟩
    refine ⟨i, hi, j, hj, ?_⟩
    rwa [descriptionAt_of_getElem? ha, descriptionAt_of_getElem? hb,
      ← (Operation.isDescribed_iff _ _).1 hd, ← (Operation.isDescribed_iff _ _).1 he]
  · rintro ⟨i, hi, j, hj, hne⟩
    have ha := List.getElem?_eq_getElem (hlt i hi)
    have hb := List.getElem?_eq_getElem (hlt j hj)
    rw [descriptionAt_of_getElem? ha, descriptionAt_of_getElem? hb] at hne
    exact ⟨i, hi, j, hj, _, _, _, _, ha, hb, (Operation.isDescribed_iff _ _).2 rfl,
      (Operation.isDescribed_iff _ _).2 rfl, hne⟩

theorem isDisputed_iff {g : Group} (hg : g ∈ s.groupOperations mode) :
    s.isDisputed g = true ↔ s.Disagrees g := by
  obtain ⟨i, rest, hcons, -, hlt, hdescription⟩ := exists_operations_eq_cons hg
  rw [disagrees_iff (by rwa [hcons]), hcons, exists_ne_iff_exists_ne_head, isDisputed, hcons,
    hdescription]
  simp

/-- A run through the groups that keeps the disputed ones warns about these. -/
theorem warns_filter {groups : List Group}
    (h : ∀ g ∈ groups, s.isDisputed g = true ↔ s.Disagrees g) :
    s.Warns groups
      ((groups.filter s.isDisputed).map fun g => .differingDescriptions g.name.written) := by
  induction groups with
  | nil => exact .nil
  | cons g groups ih =>
    obtain ⟨hg, hrest⟩ := List.forall_mem_cons.1 h
    by_cases hdisputed : s.isDisputed g = true
    · rw [List.filter_cons_of_pos hdisputed]
      exact .disagree (hg.1 hdisputed) (ih hrest)
    · rw [List.filter_cons_of_neg hdisputed]
      exact .agree (fun hdisagrees => hdisputed (hg.2 hdisagrees)) (ih hrest)

/-- The first operation of a group describes it, and the log names exactly the groups in which some
two operations would describe it differently. -/
theorem groups_described (s : Spec) (mode : GroupBy) :
    (∀ g ∈ s.groupOperations mode, s.IsDescribed g) ∧
      s.Warns (s.groupOperations mode) (s.groupLog mode) ∧
      ∀ e ∈ s.groupLog mode, e.level = "WARN" := by
  refine ⟨fun g hg => isDescribed_of_mem_groupOperations hg,
    warns_filter fun g hg => isDisputed_iff hg, ?_⟩
  intro e he
  obtain ⟨g, -, rfl⟩ := List.mem_map.1 he
  rfl

/-- A description that is missing differs from one that is there. -/
example :
    let tagged (tag : String) (text : Option String) : Operation :=
      { (default : Operation) with tags := [{ name := tag, description := text }] }
    let s : Spec :=
      { (default : Spec) with
        operations := [tagged "pet-store" (some "Pets"), tagged "order" none,
          tagged "pet_store" none, tagged "Order" none] }
    s.groupLog .tag = [.differingDescriptions "pet-store"] := by
  decide

end Spec

end SpringScaffold
