import SpringScaffold.ImportSet

/-! Adding to a set of imports: what is there already changes nothing, so adding the same imports
again leaves the set and its order as they are, and what is new comes behind all that was there. The
set keeps the first of each identifier (`ImportSet.ids_insertAll`). -/

namespace SpringScaffold

theorem eraseDups_eq_self {l : List String} (h : l.Nodup) : l.eraseDups = l := by
  induction l with
  | nil => rfl
  | cons a l ih =>
    obtain ⟨ha, hl⟩ := List.nodup_cons.1 h
    have hrest : l.filter (fun b => !b == a) = l := by
      rw [List.filter_eq_self]
      intro b hb
      have hne : b ≠ a := fun he => ha (he ▸ hb)
      simp [hne]
    rw [List.eraseDups_cons, hrest, ih hl]

theorem eraseDups_append_cons_of_mem {as : List String} {a : String} (ha : a ∈ as)
    (bs : List String) : (as ++ a :: bs).eraseDups = (as ++ bs).eraseDups := by
  rw [List.eraseDups_append, List.eraseDups_append]
  simp [List.removeAll, ha]

namespace ImportSet

theorem mem_insert {s : ImportSet} {id other : String} :
    other ∈ s.insert id ↔ other ∈ s ∨ other = id := by
  rw [mem_def, ids_insert]
  split
  · next h =>
    constructor
    · exact .inl
    · rintro (ho | rfl)
      · exact ho
      · exact h
  · simp [mem_def]

theorem insert_of_mem {s : ImportSet} {id : String} (h : id ∈ s) : s.insert id = s :=
  dif_pos h

theorem insertAll_cons (s : ImportSet) (first : String) (rest : List String) :
    s.insertAll (first :: rest) = (s.insert first).insertAll rest := rfl

theorem mem_insertAll {s : ImportSet} {ids : List String} {id : String} :
    id ∈ s.insertAll ids ↔ id ∈ s ∨ id ∈ ids := by
  induction ids generalizing s with
  | nil => simp [insertAll]
  | cons first rest ih =>
    rw [insertAll_cons, ih, mem_insert, List.mem_cons, or_assoc]

theorem insertAll_of_forall_mem {s : ImportSet} {ids : List String} (h : ∀ id ∈ ids, id ∈ s) :
    s.insertAll ids = s := by
  induction ids with
  | nil => rfl
  | cons first rest ih =>
    rw [insertAll_cons, insert_of_mem (h first List.mem_cons_self)]
    exact ih fun id hid => h id (List.mem_cons_of_mem _ hid)

theorem insertAll_insertAll (s : ImportSet) (ids : List String) :
    (s.insertAll ids).insertAll ids = s.insertAll ids :=
  insertAll_of_forall_mem fun _ hid => mem_insertAll.2 (.inr hid)

theorem ids_prefix_insert (s : ImportSet) (id : String) : s.ids <+: (s.insert id).ids := by
  rw [ids_insert]
  split
  · exact List.prefix_refl _
  · exact List.prefix_append _ _

theorem ids_prefix_insertAll (s : ImportSet) (ids : List String) :
    s.ids <+: (s.insertAll ids).ids := by
  induction ids generalizing s with
  | nil => exact List.prefix_refl _
  | cons first rest ih => exact (s.ids_prefix_insert first).trans (ih (s.insert first))

theorem ids_insertAll (s : ImportSet) (ids : List String) :
    (s.insertAll ids).ids = (s.ids ++ ids).eraseDups := by
  induction ids generalizing s with
  | nil => simp [insertAll, eraseDups_eq_self s.nodup]
  | cons first rest ih =>
    rw [insertAll_cons, ih, ids_insert]
    split
    · next h => rw [eraseDups_append_cons_of_mem (mem_def.1 h)]
    · rw [List.append_assoc, List.singleton_append]

theorem insertAll_append (s : ImportSet) (ids more : List String) :
    s.insertAll (ids ++ more) = (s.insertAll ids).insertAll more :=
  List.foldl_append

theorem ofList_ids (s : ImportSet) : ofList s.ids = s := by
  rw [ImportSet.mk.injEq, ofList, ids_insertAll]
  exact eraseDups_eq_self s.nodup

end ImportSet

theorem nodup_eraseDups (l : List String) : l.eraseDups.Nodup := by
  have h := (ImportSet.empty.insertAll l).nodup
  rwa [ImportSet.ids_insertAll] at h

end SpringScaffold
