import Mathlib.Data.List.Infix
import SpringScaffold.Disk.Tree

/-! What stands at the places of a file tree, and what is left of it when a tree is put at one
place: all that is not at that place or below it. -/

namespace SpringScaffold.FileTree

/-- What stands at a place, without what is below it. -/
inductive Node where
  | file (content : ByteArray)
  | directory

def node : FileTree → Node
  | .file content => .file content
  | .directory _ => .directory

def node? (t : FileTree) (q : List String) : Option Node := (t.get? q).map node

@[simp] theorem get?_nil (t : FileTree) : t.get? [] = some t := by cases t <;> rfl

@[simp] theorem get?_file_cons (content : ByteArray) (n : String) (q : List String) :
    (FileTree.file content).get? (n :: q) = none := rfl

@[simp] theorem get?_directory_cons (entries : List (String × FileTree)) (n : String)
    (q : List String) :
    (FileTree.directory entries).get? (n :: q) = (entries.lookup n).bind (·.get? q) := rfl

theorem get?_append (t : FileTree) (p q : List String) :
    t.get? (p ++ q) = (t.get? p).bind (·.get? q) := by
  induction p generalizing t with
  | nil => simp
  | cons n p ih =>
    cases t with
    | file content => rfl
    | directory entries =>
      rw [List.cons_append, get?_directory_cons, get?_directory_cons]
      cases entries.lookup n with
      | none => rfl
      | some u => exact ih u

theorem node_eq_directory {t : FileTree} : t.node = .directory ↔ t.isDirectory = true := by
  cases t <;> simp [node, isDirectory]

theorem node_eq_file {t : FileTree} {content : ByteArray} :
    t.node = .file content ↔ t = .file content := by
  cases t <;> simp [node]

theorem node?_eq_some {t : FileTree} {q : List String} {k : Node} :
    t.node? q = some k ↔ ∃ u, t.get? q = some u ∧ u.node = k := Option.map_eq_some_iff

theorem node?_of_get? {t u : FileTree} {q : List String} (h : t.get? q = some u) :
    t.node? q = some u.node := by rw [node?, h]; rfl

theorem node?_eq_none {t : FileTree} {q : List String} : t.node? q = none ↔ t.get? q = none :=
  Option.map_eq_none_iff

theorem node?_eq_directory {t : FileTree} {q : List String} :
    t.node? q = some .directory ↔ ∃ entries, t.get? q = some (.directory entries) := by
  rw [node?_eq_some]
  constructor
  · rintro ⟨u, hu, hk⟩
    cases u with
    | file content => cases hk
    | directory entries => exact ⟨entries, hu⟩
  · rintro ⟨entries, h⟩
    exact ⟨_, h, rfl⟩

theorem node?_eq_file {t : FileTree} {q : List String} {content : ByteArray} :
    t.node? q = some (.file content) ↔ t.get? q = some (.file content) := by
  rw [node?_eq_some]
  constructor
  · rintro ⟨u, hu, hk⟩
    rwa [node_eq_file.1 hk] at hu
  · intro h
    exact ⟨_, h, rfl⟩

theorem node?_append {t u : FileTree} {p : List String} (h : t.get? p = some u) (q : List String) :
    t.node? (p ++ q) = u.node? q := by
  rw [node?, get?_append, h]
  rfl

/-- Nothing is below a file. -/
theorem node?_eq_directory_of_append {t : FileTree} {p : List String} {n : String} {q : List String}
    (h : t.node? (p ++ n :: q) ≠ none) : t.node? p = some .directory := by
  rw [Ne, node?_eq_none, get?_append] at h
  cases hp : t.get? p with
  | none => simp [hp] at h
  | some u =>
    cases u with
    | file content => simp [hp] at h
    | directory entries => exact node?_eq_directory.2 ⟨entries, hp⟩

theorem node?_eq_none_of_below {t : FileTree} {p q : List String}
    (h : t.node? p ≠ some .directory) (hq : p <+: q) (hne : q ≠ p) : t.node? q = none := by
  obtain ⟨r, rfl⟩ := hq
  cases r with
  | nil => exact absurd (List.append_nil p) hne
  | cons n r =>
    by_contra hsome
    exact h (node?_eq_directory_of_append hsome)

theorem node?_dropLast {t : FileTree} {q : List String} (h : t.node? q = some .directory) :
    t.node? q.dropLast = some .directory := by
  rcases List.eq_nil_or_concat' q with rfl | ⟨p, n, rfl⟩
  · exact h
  · rw [List.dropLast_concat]
    exact node?_eq_directory_of_append (n := n) (q := []) (by simp [h])

/-- The content of the regular file at a place. -/
def file? (t : FileTree) (q : List String) : Option ByteArray :=
  match t.node? q with
  | some (.file content) => some content
  | _ => none

theorem file?_eq_some {t : FileTree} {q : List String} {content : ByteArray} :
    t.file? q = some content ↔ t.node? q = some (.file content) := by
  unfold file?
  split
  · next c h => rw [h, Option.some.injEq, Option.some.injEq, Node.file.injEq]
  · next h =>
    constructor
    · intro hsome
      cases hsome
    · intro hfile
      exact absurd hfile (h content)

theorem file?_congr {t u : FileTree} {q r : List String} (h : t.node? q = u.node? r) :
    t.file? q = u.file? r := by rw [file?, file?, h]

theorem file?_of_node?_eq_none {t : FileTree} {q : List String} (h : t.node? q = none) :
    t.file? q = none := by rw [file?, h]

/-! ### Putting a tree at a place -/

theorem lookup_entry (m k : String) (w : FileTree) (rest : List (String × FileTree)) :
    List.lookup m ((k, w) :: rest) = if m = k then some w else List.lookup m rest := by
  by_cases h : m = k
  · simp [h]
  · simp [List.lookup_cons, h, beq_eq_false_iff_ne.2 h]

theorem lookup_putEntry (n m : String) (u : FileTree) (entries : List (String × FileTree)) :
    (putEntry n u entries).lookup m = if m = n then some u else entries.lookup m := by
  induction entries with
  | nil => rw [putEntry, lookup_entry]
  | cons e rest ih =>
    obtain ⟨k, w⟩ := e
    by_cases hk : k = n
    · subst hk
      rw [putEntry, if_pos rfl, lookup_entry, lookup_entry]
      split <;> rfl
    · have hnk : n ≠ k := fun he => hk he.symm
      rw [putEntry, if_neg hk, lookup_entry, lookup_entry, ih]
      by_cases h : m = n
      · simp [h, hnk]
      · simp [h]

theorem lookup_filter_ne (n m : String) (entries : List (String × FileTree)) :
    (entries.filter (·.1 != n)).lookup m = if m = n then none else entries.lookup m := by
  induction entries with
  | nil => simp
  | cons e rest ih =>
    obtain ⟨k, w⟩ := e
    by_cases hk : k = n
    · subst hk
      rw [List.filter_cons_of_neg (by simp), ih, lookup_entry]
      split <;> rfl
    · have hnk : n ≠ k := fun he => hk he.symm
      rw [List.filter_cons_of_pos (by simpa using hk), lookup_entry, lookup_entry, ih]
      by_cases h : m = n
      · simp [h, hnk]
      · simp [h]

theorem lookup_map_entry (n m : String) (f : FileTree → FileTree)
    (entries : List (String × FileTree)) :
    (entries.map fun (k, u) => (k, if k = n then f u else u)).lookup m =
      (entries.lookup m).map fun u => if m = n then f u else u := by
  induction entries with
  | nil => rfl
  | cons e rest ih =>
    obtain ⟨k, w⟩ := e
    rw [List.map_cons, lookup_entry, lookup_entry, ih]
    by_cases h : m = k
    · simp [h]
    · simp [h]

theorem set_file_cons (new : Option FileTree) (content : ByteArray) (n : String) (q : List String) :
    set new (n :: q) (.file content) = .file content := by simp [set]

theorem set_directory_cons (new : Option FileTree) (entries : List (String × FileTree)) (n : String)
    {q : List String} (hq : q ≠ []) :
    set new (n :: q) (.directory entries) =
      .directory (entries.map fun (k, u) => (k, if k = n then set new q u else u)) := by
  obtain ⟨m, rest, rfl⟩ := List.exists_cons_of_ne_nil hq
  simp [set]

theorem lookup_set_singleton (new : Option FileTree) (n m : String)
    (entries : List (String × FileTree)) (q : List String) :
    (set new [n] (.directory entries)).get? (m :: q) =
      if m = n then new.bind (·.get? q) else (entries.lookup m).bind (·.get? q) := by
  cases new with
  | none => by_cases h : m = n <;> simp [set, lookup_filter_ne, h]
  | some u => by_cases h : m = n <;> simp [set, lookup_putEntry, h]

/-- A tree that is put into a directory is found there, with all below it. -/
theorem get?_set {t : FileTree} {p : List String} (h : t.node? p = some .directory)
    (new : Option FileTree) (n : String) (q : List String) :
    (t.set new (p ++ [n])).get? (p ++ n :: q) = new.bind (·.get? q) := by
  induction p generalizing t with
  | nil =>
    obtain ⟨entries, h⟩ := node?_eq_directory.1 h
    obtain rfl : t = .directory entries := by simpa using h
    rw [List.nil_append, List.nil_append, lookup_set_singleton, if_pos rfl]
  | cons a p ih =>
    cases t with
    | file content => simp [node?] at h
    | directory es =>
      rw [node?, get?_directory_cons, Option.map_bind] at h
      obtain ⟨u, hu, h⟩ := Option.bind_eq_some_iff.1 h
      rw [List.cons_append, List.cons_append, set_directory_cons _ _ _ (by simp),
        get?_directory_cons, lookup_map_entry, hu, Option.map_some, if_pos rfl, Option.bind_some]
      exact ih h

/-- Places that are not below stay. -/
theorem node?_set_of_not_below (t : FileTree) (new : Option FileTree) {p : List String} {n : String}
    {q : List String} (h : ¬ p ++ [n] <+: q) : (t.set new (p ++ [n])).node? q = t.node? q := by
  induction p generalizing t q with
  | nil =>
    cases t with
    | file content => rw [List.nil_append, set_file_cons]
    | directory entries =>
      cases q with
      | nil => simp [set, node?, node]
      | cons m q =>
        have hm : m ≠ n := fun he => h (by simp [he])
        rw [node?, List.nil_append, lookup_set_singleton, if_neg hm]
        rfl
  | cons a p ih =>
    cases t with
    | file content => rw [List.cons_append, set_file_cons]
    | directory entries =>
      rw [List.cons_append, set_directory_cons _ _ _ (by simp)]
      cases q with
      | nil => simp [node?, node]
      | cons m q =>
        rw [node?, node?, get?_directory_cons, get?_directory_cons, lookup_map_entry]
        cases entries.lookup m with
        | none => rfl
        | some u =>
          by_cases hm : m = a
          · have hq : ¬ p ++ [n] <+: q := fun hp => h (by simpa [hm] using hp)
            simpa [hm, node?] using ih u hq
          · simp [hm]

theorem get?_set_eq_none {t : FileTree} {p : List String} (h : t.node? p = some .directory)
    {n : String} {q : List String} (hq : p ++ [n] <+: q) :
    (t.set none (p ++ [n])).get? q = none := by
  obtain ⟨r, rfl⟩ := hq
  rw [List.append_assoc, List.singleton_append, get?_set h]
  rfl

end SpringScaffold.FileTree
