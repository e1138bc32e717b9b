import SpringScaffold.Proofs.Walk

/-! Making directories: a tree grows by directories on the way, and loses nothing. -/

namespace SpringScaffold.FileTree

/-- Where a path ends, as the names that lead there from the top. -/
def Place.address (place : Place) : List String := place.parent ++ place.name?.toList

theorem Place.address_of_named {place : Place} {n : String} (h : place.name? = some n) :
    place.address = place.parent ++ [n] := by rw [Place.address, h]; rfl

/-- The path leads to the place, where something may stand or not. -/
def Names (t : FileTree) (p : String) (q : List String) : Prop :=
  ∃ place, t.locate p = .ok place ∧ q = place.address

theorem KeepsDirectories.names {t t' : FileTree} (h : KeepsDirectories t t') {p : String}
    {q : List String} (hp : t.Names p q) : t'.Names p q := by
  obtain ⟨place, hplace, hq⟩ := hp
  exact ⟨place, h.locate hplace, hq⟩

theorem Names.unique {t : FileTree} {p : String} {q q' : List String} (h : t.Names p q)
    (h' : t.Names p q') : q = q' := by
  obtain ⟨place, hplace, rfl⟩ := h
  obtain ⟨place', hplace', rfl⟩ := h'
  rw [Except.ok.inj (hplace.symm.trans hplace')]

theorem node?_root {t : FileTree} : t.node? [] = some .directory ↔ t.isDirectory = true := by
  rw [node?, get?_nil, Option.map_some, Option.some.injEq, node_eq_directory]

theorem KeepsDirectories.isDirectory {t t' : FileTree} (h : KeepsDirectories t t')
    (ht : t.isDirectory = true) : t'.isDirectory = true := node?_root.1 (h [] (node?_root.2 ht))

theorem isDirectory_of_get? {t u : FileTree} {p : List String} {n : String}
    (h : t.get? (p ++ [n]) = some u) : t.isDirectory = true := by
  cases t with
  | directory entries => rfl
  | file content => cases p <;> cases h

theorem set_of_not_isDirectory {t : FileTree} (h : ¬ t.isDirectory = true) (new : Option FileTree)
    (p : List String) (n : String) : t.set new (p ++ [n]) = t := by
  cases t with
  | directory entries => exact absurd rfl h
  | file content => cases p <;> exact set_file_cons _ _ _ _

/-- The directory in which a path ends exists. -/
theorem node?_parent {t : FileTree} (ht : t.isDirectory = true) {p : String} {place : Place}
    (h : t.locate p = .ok place) : t.node? place.parent = some .directory := by
  obtain ⟨way, -, he⟩ := locate_eq_ok.1 h
  exact enter_directory (node?_root.2 ht) he

/-- A path to a directory can be walked to its end. -/
theorem enter_of_locate {t : FileTree} {p : String} {place : Place} (h : t.locate p = .ok place)
    (hd : t.node? place.address = some .directory) :
    t.enter [] (Path.steps p) = .ok place.address := by
  cases hn : place.name? with
  | none =>
    rw [Place.address, hn]
    simpa using (locate_unnamed h hn).1
  | some n =>
    obtain ⟨before, hsteps, hname, hsize, he⟩ := locate_named h hn
    rw [Place.address_of_named hn] at hd ⊢
    rw [hsteps]
    exact enter_append_eq_ok.2 ⟨_, he, enter_cons_eq_ok.2 (.inr (.inr ⟨hname, hsize, hd, rfl⟩))⟩

theorem open?_eq_ok {t u : FileTree} {p : String} (h : t.open? p = .ok u) :
    ∃ place, t.locate p = .ok place ∧ t.get? place.address = some u := by
  obtain ⟨place, hplace, h⟩ := bind_eq_ok.1 h
  refine ⟨place, hplace, ?_⟩
  change t.at? place = some u
  split at h
  · cases h
  · next content hat =>
    split at h
    · cases h
    · cases h
      exact hat
  · next hat =>
    cases h
    exact hat

theorem open?_of_locate {t u : FileTree} {p : String} {place : Place} (h : t.locate p = .ok place)
    (hu : t.get? place.address = some u) (hslash : u.isDirectory = false → place.slash = false) :
    t.open? p = .ok u := by
  have hat : t.at? place = some u := hu
  unfold open?
  simp only [h, bind, Except.bind, pure, Except.pure, hat]
  cases u with
  | directory entries => rfl
  | file content => simp [hslash rfl]

/-- Directories are made at places that the paths name; all that stood before stays. -/
structure Grown (paths : List String) (before after : FileTree) : Prop where
  kept : ∀ {q k}, before.node? q = some k → after.node? q = some k
  added : ∀ {q k}, before.node? q = none → after.node? q = some k →
    k = .directory ∧ ∃ p ∈ paths, after.Names p q

namespace Grown

variable {paths : List String} {a b c : FileTree}

theorem refl (paths : List String) (t : FileTree) : Grown paths t t :=
  ⟨id, fun hnone hsome => by cases hnone.symm.trans hsome⟩

theorem keepsDirectories (h : Grown paths a b) : KeepsDirectories a b := fun _ hq => h.kept hq

theorem trans (h : Grown paths a b) (h' : Grown paths b c) : Grown paths a c where
  kept hq := h'.kept (h.kept hq)
  added {q k} hnone hsome := by
    cases hb : b.node? q with
    | none => exact h'.added hb hsome
    | some k' =>
      obtain rfl : k' = k := Option.some.inj ((h'.kept hb).symm.trans hsome)
      obtain ⟨hk, p, hp, hnames⟩ := h.added hnone hb
      exact ⟨hk, p, hp, h'.keepsDirectories.names hnames⟩

theorem mono {more : List String} (h : Grown paths a b) (hsub : paths ⊆ more) : Grown more a b where
  kept := h.kept
  added hnone hsome := by
    obtain ⟨hk, p, hp, hnames⟩ := h.added hnone hsome
    exact ⟨hk, p, hsub hp, hnames⟩

end Grown

theorem makeDirectory_eq_ok {t t' : FileTree} {p : String} (h : t.makeDirectory p = .ok t') :
    ∃ place n, t.locate p = .ok place ∧ place.name? = some n ∧ t.get? place.address = none ∧
      t' = t.set (some empty) (place.parent ++ [n]) := by
  obtain ⟨place, hplace, h⟩ := bind_eq_ok.1 h
  split at h
  · next n hn hat =>
    cases h
    exact ⟨place, n, hplace, hn, hat, rfl⟩
  · cases h

theorem makeDirectory_grown {t t' : FileTree} {p : String} (h : t.makeDirectory p = .ok t') :
    Grown [p] t t' := by
  obtain ⟨place, n, hplace, hn, hnone, rfl⟩ := makeDirectory_eq_ok h
  by_cases ht : t.isDirectory = true
  · have hparent := node?_parent ht hplace
    rw [Place.address_of_named hn] at hnone
    have hbelow : ∀ {q}, place.parent ++ [n] <+: q → t.get? q = none := by
      rintro q ⟨r, rfl⟩
      rw [get?_append, hnone]
      rfl
    have hkept : ∀ {q k}, t.node? q = some k →
        (t.set (some empty) (place.parent ++ [n])).node? q = some k := by
      intro q k hq
      rw [node?_set_of_not_below, hq]
      intro hprefix
      rw [node?, hbelow hprefix] at hq
      cases hq
    refine ⟨hkept, ?_⟩
    intro q k hqnone hq
    have hprefix : place.parent ++ [n] <+: q := by
      by_contra hprefix
      rw [node?_set_of_not_below _ _ hprefix, hqnone] at hq
      cases hq
    obtain ⟨r, rfl⟩ := hprefix
    rw [List.append_assoc, List.singleton_append, node?, get?_set hparent] at hq
    cases r with
    | nil =>
      obtain rfl : Node.directory = k := by simpa [empty, node] using hq
      refine ⟨rfl, p, List.mem_singleton_self p, place, ?_, ?_⟩
      · exact KeepsDirectories.locate (fun q hq => hkept hq) hplace
      · rw [Place.address_of_named hn, List.append_nil]
    | cons m r => simp [empty] at hq
  · rw [set_of_not_isDirectory ht]
    exact Grown.refl _ _

/-- A directory that was made can be opened. -/
theorem makeDirectory_opens {t t' : FileTree} (ht : t.isDirectory = true) {p : String}
    (h : t.makeDirectory p = .ok t') : t'.open? p = .ok empty := by
  have hgrown := (makeDirectory_grown h).keepsDirectories
  obtain ⟨place, n, hplace, hn, -, rfl⟩ := makeDirectory_eq_ok h
  refine open?_of_locate (hgrown.locate hplace) ?_ nofun
  rw [Place.address_of_named hn, get?_set (node?_parent ht hplace)]
  rfl

theorem ensureDirectory_eq_ok {t t' : FileTree} {p : String} (h : t.ensureDirectory p = .ok t') :
    t.makeDirectory p = .ok t' ∨ t' = t ∧ ∃ entries, t.open? p = .ok (.directory entries) := by
  unfold ensureDirectory at h
  split at h
  · split at h
    · next entries hopen =>
      cases h
      exact .inr ⟨rfl, entries, hopen⟩
    · cases h
  · exact .inl h

theorem ensureDirectory_grown {t t' : FileTree} {p : String} (h : t.ensureDirectory p = .ok t') :
    Grown [p] t t' := by
  rcases ensureDirectory_eq_ok h with h | ⟨rfl, -⟩
  · exact makeDirectory_grown h
  · exact Grown.refl _ _

theorem ensureDirectory_opens {t t' : FileTree} (ht : t.isDirectory = true) {p : String}
    (h : t.ensureDirectory p = .ok t') : ∃ entries, t'.open? p = .ok (.directory entries) := by
  rcases ensureDirectory_eq_ok h with h | ⟨rfl, hopen⟩
  · exact ⟨[], makeDirectory_opens ht h⟩
  · exact hopen

theorem ensureAll_grown (t : FileTree) (paths : List String) :
    Grown paths t (t.ensureAll paths).2 := by
  induction paths generalizing t with
  | nil => exact Grown.refl _ _
  | cons p shorter ih =>
    have hfirst : [p] ⊆ p :: shorter := by simp
    unfold ensureAll
    split
    · next h => exact (ensureDirectory_grown h).mono hfirst
    · -- the path has no parent yet: the shorter paths are made, then it is tried again
      have hshorter : Grown (p :: shorter) t (t.ensureAll shorter).2 :=
        (ih t).mono (List.subset_cons_self p shorter)
      split
      · next made hmade =>
        rw [hmade] at hshorter
        split
        · next h => exact hshorter.trans ((ensureDirectory_grown h).mono hfirst)
        · exact hshorter
      · exact hshorter
    · exact Grown.refl _ _

/-- Once a path and those that lead to it are made, the path leads to a directory. -/
theorem ensureAll_opens {t : FileTree} (ht : t.isDirectory = true) {p : String}
    {shorter : List String} (h : (t.ensureAll (p :: shorter)).1 = .ok ()) :
    ∃ entries, (t.ensureAll (p :: shorter)).2.open? p = .ok (.directory entries) := by
  unfold ensureAll at h ⊢
  split at h
  · next hp => exact ensureDirectory_opens ht hp
  · split at h
    · next made hmade =>
      have hdir : made.isDirectory = true := by
        have hgrown := (ensureAll_grown t shorter).keepsDirectories
        rw [hmade] at hgrown
        exact hgrown.isDirectory ht
      split at h
      · next hp => exact ensureDirectory_opens hdir hp
      · cases h
    · next hfail => exact (hfail _ (Prod.ext h rfl)).elim
  · cases h

theorem createDirectories_grown (t : FileTree) (p : String) :
    Grown (Path.ancestors p) t (t.createDirectories p).2 := ensureAll_grown t _

/-- The path leads to a directory, or stands for the top without naming it. -/
def HasDirectory (t : FileTree) (p : String) : Prop :=
  Path.ancestors p = [] ∧ Path.steps p = [] ∨ ∃ entries, t.open? p = .ok (.directory entries)

theorem createDirectories_hasDirectory {t : FileTree} (ht : t.isDirectory = true) {p : String}
    (h : (t.createDirectories p).1 = .ok ()) : (t.createDirectories p).2.HasDirectory p := by
  unfold createDirectories at h ⊢
  rcases Path.ancestors_cases p with htop | ⟨shorter, hp⟩
  · exact .inl htop
  · rw [hp] at h ⊢
    exact .inr (ensureAll_opens ht h)

theorem HasDirectory.enter {t : FileTree} {p : String} (h : t.HasDirectory p) :
    ∃ q, t.enter [] (Path.steps p) = .ok q := by
  rcases h with ⟨-, hsteps⟩ | ⟨entries, hopen⟩
  · exact ⟨[], by rw [hsteps]; rfl⟩
  · obtain ⟨place, hplace, hd⟩ := open?_eq_ok hopen
    exact ⟨_, enter_of_locate hplace (node?_of_get? hd)⟩

end SpringScaffold.FileTree
