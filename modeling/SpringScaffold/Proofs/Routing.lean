import SpringScaffold.Disk.Route
import SpringScaffold.Proofs.Growth

/-! What routing a file does to a tree. A move takes what stands at a place to one in a directory
next to it and leaves the rest alone. -/

namespace SpringScaffold

namespace FileTree

/-- What stands at the source is taken to the target, where nothing is lost but a file or an empty
directory. -/
structure Moved (source target : List String) (moved before after : FileTree) : Prop where
  found : before.get? source = some moved
  arrived : after.get? target = some moved
  gone : ∀ {q}, source <+: q → after.get? q = none
  kept : ∀ {q}, ¬ source <+: q → ¬ target <+: q → after.node? q = before.node? q
  /-- What stood at the target had nothing below it. -/
  free : ∀ {q}, target <+: q → q ≠ target → before.get? q = none
  /-- What stood at the target was a directory only if one is moved there. -/
  alike : before.node? target = some .directory → moved.isDirectory = true

namespace Moved

variable {source target : List String} {moved a b : FileTree}

/-- Directories stay outside of what is moved. -/
theorem directory_kept (h : Moved source target moved a b) {q : List String}
    (hq : a.node? q = some .directory) (hsource : ¬ source <+: q) :
    b.node? q = some .directory := by
  by_cases htarget : target <+: q
  · by_cases hne : q = target
    · rw [hne] at hq ⊢
      rw [node?_of_get? h.arrived, node_eq_directory.2 (h.alike hq)]
    · rw [node?, h.free htarget hne] at hq
      cases hq
  · rw [h.kept hsource htarget, hq]

theorem node?_kept (h : Moved source target moved a b) {q : List String} {k : Node}
    (hq : a.node? q = some k) (hsource : ¬ source <+: q) (hne : q ≠ target) :
    b.node? q = some k := by
  have htarget : ¬ target <+: q := by
    intro hprefix
    rw [node?, h.free hprefix hne] at hq
    cases hq
  rw [h.kept hsource htarget, hq]

/-- What is there after the move has been moved or was there before. -/
theorem node?_origin (h : Moved source target moved a b) {q : List String} {k : Node}
    (hq : b.node? q = some k) : target <+: q ∨ a.node? q = some k := by
  by_cases htarget : target <+: q
  · exact .inl htarget
  · have hsource : ¬ source <+: q := by
      intro hprefix
      rw [node?, h.gone hprefix] at hq
      cases hq
    exact .inr (h.kept hsource htarget ▸ hq)

/-- No directory is moved with a file. -/
theorem not_below_file (h : Moved source target moved a b) (hfile : moved.isDirectory = false)
    {q : List String} (hq : a.node? q = some .directory) : ¬ source <+: q := by
  intro hbelow
  have hsource : a.node? source ≠ some .directory := by
    rw [node?_of_get? h.found, Ne, Option.some.injEq, node_eq_directory, hfile]
    exact Bool.false_ne_true
  by_cases hne : q = source
  · exact hsource (hne ▸ hq)
  · rw [node?_eq_none_of_below hsource hbelow hne] at hq
    cases hq

end Moved

/-- A file cannot replace a directory, and a directory only an empty one. -/
def Replaceable (moved : FileTree) (old : Option FileTree) : Prop :=
  ∀ u, old = some u → u.isDirectory = moved.isDirectory ∧
    ∀ entries, u = .directory entries → entries = []

theorem moved_set {t moved : FileTree} {p q : List String} {n m : String}
    (hfound : t.get? (p ++ [n]) = some moved) (hq : t.node? q = some .directory)
    (hbelow : ¬ p ++ [n] <+: q ++ [m]) (habove : ¬ q ++ [m] <+: p ++ [n])
    (hold : Replaceable moved (t.get? (q ++ [m]))) :
    Moved (p ++ [n]) (q ++ [m]) moved t
      ((t.set none (p ++ [n])).set (some moved) (q ++ [m])) := by
  have hp : t.node? p = some .directory :=
    node?_eq_directory_of_append (n := n) (q := []) (by simp [node?, hfound])
  have hq' : (t.set none (p ++ [n])).node? q = some .directory := by
    rw [node?_set_of_not_below, hq]
    exact fun h => hbelow (h.trans (List.prefix_append q [m]))
  refine ⟨hfound, ?_, ?_, ?_, ?_, ?_⟩
  · rw [get?_set hq']
    simp
  · intro r hr
    have hr' : ¬ q ++ [m] <+: r := fun h =>
      (List.prefix_or_prefix_of_prefix hr h).elim hbelow habove
    rw [← node?_eq_none, node?_set_of_not_below _ _ hr', node?_eq_none]
    exact get?_set_eq_none hp hr
  · intro r hsource htarget
    rw [node?_set_of_not_below _ _ htarget, node?_set_of_not_below _ _ hsource]
  · rintro r ⟨rest, rfl⟩ hr
    obtain ⟨x, rest, rfl⟩ := List.exists_cons_of_ne_nil (l := rest) (by rintro rfl; simp at hr)
    rw [get?_append]
    cases hu : t.get? (q ++ [m]) with
    | none => rfl
    | some u =>
      cases u with
      | file content => rfl
      | directory entries =>
        obtain rfl := (hold _ hu).2 entries rfl
        rfl
  · intro hd
    obtain ⟨entries, hu⟩ := node?_eq_directory.1 hd
    exact (hold _ hu).1.symm

/-- The tree that a replacement leaves, unless it is refused. -/
def replaced (after moved : FileTree) (old : Option FileTree) : Except OsError FileTree :=
  match moved, old with
  | .file _, some (.directory _) => .error .isDirectory
  | .directory _, some (.file _) => .error .notDirectory
  | .directory _, some (.directory (_ :: _)) => .error .notEmpty
  | _, _ => .ok after

theorem replaced_eq_ok {after moved t' : FileTree} {old : Option FileTree}
    (h : replaced after moved old = .ok t') : Replaceable moved old ∧ t' = after := by
  cases old with
  | none =>
    refine ⟨nofun, ?_⟩
    cases moved <;> exact (Except.ok.inj h).symm
  | some u =>
    cases moved with
    | file content =>
      cases u with
      | directory entries => cases h
      | file old =>
        refine ⟨fun v hv => ?_, (Except.ok.inj h).symm⟩
        cases hv
        exact ⟨rfl, nofun⟩
    | directory entries =>
      cases u with
      | file old => cases h
      | directory old =>
        cases old with
        | cons head tail => cases h
        | nil =>
          refine ⟨fun v hv => ?_, (Except.ok.inj h).symm⟩
          cases hv
          exact ⟨rfl, fun entries he => (directory.inj he).symm⟩

theorem rename_eq {t : FileTree} {p target : String} {s d : Place} {n m : String}
    (hs : t.locate p = .ok s) (hd : t.locate target = .ok d) (hn : s.name? = some n)
    (hm : d.name? = some m) :
    t.rename p target =
      match t.get? s.address with
      | none => .error .notFound
      | some moved =>
        if !moved.isDirectory && (s.slash || d.slash) then .error .notDirectory
        else if s.address = d.address then .ok t
        else if s.address.isPrefixOf d.address then .error .invalidArgument
        else if d.address.isPrefixOf s.address then .error .notEmpty
        else replaced ((t.set none s.address).set (some moved) d.address) moved
          (t.get? d.address) := by
  rw [Place.address_of_named hn, Place.address_of_named hm, rename, hs, hd]
  simp only [bind, Except.bind, pure, Except.pure, hn, hm]
  rfl

theorem rename_eq_ok {t t' : FileTree} {p target : String} (h : t.rename p target = .ok t') :
    ∃ s n d m, t.locate p = .ok s ∧ s.name? = some n ∧ t.locate target = .ok d ∧
      d.name? = some m ∧ ∃ moved, t.get? s.address = some moved ∧
      (moved.isDirectory = false → s.slash = false ∧ d.slash = false) ∧
      (s.address = d.address ∧ t' = t ∨ Moved s.address d.address moved t t') := by
  obtain ⟨s, hs, hrest⟩ := bind_eq_ok.1 h
  obtain ⟨d, hd, hrest⟩ := bind_eq_ok.1 hrest
  split at hrest
  · next n m hn hm =>
    rw [rename_eq hs hd hn hm] at h
    refine ⟨s, n, d, m, hs, hn, hd, hm, ?_⟩
    split at h
    · cases h
    next moved hfound =>
    refine ⟨moved, hfound, ?_⟩
    split at h
    · cases h
    next hslash =>
    refine ⟨fun hfile => by simpa [hfile] using hslash, ?_⟩
    split at h
    · next hsame =>
      cases h
      exact .inl ⟨hsame, rfl⟩
    split at h
    · cases h
    next hbelow =>
    split at h
    · cases h
    next habove =>
    right
    obtain ⟨hold, rfl⟩ := replaced_eq_ok h
    rw [Place.address_of_named hn] at hfound hbelow habove ⊢
    rw [Place.address_of_named hm] at hold hbelow habove ⊢
    refine moved_set hfound (node?_parent (isDirectory_of_get? hfound) hd) ?_ ?_ hold
    · simpa using hbelow
    · simpa using habove
  · cases hrest

end FileTree

namespace Role

theorem subdirectory_eq_some {r : Role} {p sub : String} (h : r.subdirectory p = some sub) :
    sub = controllerDirectory ∨ sub = serviceDirectory := by
  cases r with
  | controller => exact .inl (Option.some.inj h).symm
  | service => exact .inr (Option.some.inj h).symm
  | model => cases h
  | other => cases h
  | api =>
    obtain ⟨stem, -, h⟩ := Option.bind_eq_some_iff.1 h
    dsimp only at h
    split at h
    · exact .inl (Option.some.inj h).symm
    · split at h
      · exact .inr (Option.some.inj h).symm
      · cases h

theorem steps_subdirectory {r : Role} {p sub : String} (h : r.subdirectory p = some sub) :
    Path.steps sub = [sub] ∧ Path.IsName sub := by
  rcases subdirectory_eq_some h with rfl | rfl
  · exact ⟨Path.steps_of_notMem (by decide) (by decide), by decide, by decide, by decide⟩
  · exact ⟨Path.steps_of_notMem (by decide) (by decide), by decide, by decide, by decide⟩

end Role

/-- The target lies in the directory of the role, next to the path, and has its file name. -/
structure IsTarget (p : String) (r : Role) (target sub name : String) : Prop where
  subdirectory : r.subdirectory p = some sub
  family : sub = Role.controllerDirectory ∨ sub = Role.serviceDirectory
  fileName : Path.fileName? p = some name
  joined : target = Path.join (Path.join ((Path.parent? p).getD "") sub) name

theorem isTarget_of_destination {p target : String} {r : Role}
    (h : destination p r = .ok (some target)) : ∃ sub name, IsTarget p r target sub name := by
  unfold destination at h
  split at h
  · cases h
  · next sub hsub =>
    split at h
    · cases h
    · next name hname =>
      have hjoined := (Option.some.inj (Except.ok.inj h)).symm
      exact ⟨sub, name, hsub, Role.subdirectory_eq_some hsub, hname, hjoined⟩

theorem subdirectory_of_destination {p : String} {r : Role} (h : destination p r = .ok none) :
    r.subdirectory p = none := by
  unfold destination at h
  split at h
  · next hnone => exact hnone
  · split at h <;> cases h

theorem IsTarget.steps {p target sub name : String} {r : Role} (h : IsTarget p r target sub name) :
    Path.steps target = Path.steps ((Path.parent? p).getD "") ++ [sub, name] := by
  have hname : name ∈ Path.steps p := by simp [Path.steps_of_fileName? h.fileName]
  rw [h.joined, Path.steps_join, Path.steps_join, (Role.steps_subdirectory h.subdirectory).1,
    Path.steps_of_mem_steps hname, List.append_assoc]
  rfl

/-- A routed file goes from its directory to the one of the role there. -/
theorem IsTarget.moved {p target sub name : String} {r : Role} {made after : FileTree}
    (h : IsTarget p r target sub name) (hmove : made.rename p target = .ok after) :
    ∃ s d moved, made.locate p = .ok s ∧ made.locate target = .ok d ∧
      made.enter [] (Path.steps ((Path.parent? p).getD "")) = .ok s.parent ∧
      s.address = s.parent ++ [name] ∧ d.address = s.parent ++ [sub, name] ∧
      (moved.isDirectory = false → s.slash = false ∧ d.slash = false) ∧
      FileTree.Moved (s.parent ++ [name]) (s.parent ++ [sub, name]) moved made after := by
  obtain ⟨s, n, d, m, hs, hn, hd, hm, moved, hfound, hslash, hmoved⟩ := FileTree.rename_eq_ok hmove
  obtain ⟨before, hsteps, -, -, henter⟩ := FileTree.locate_named hs hn
  obtain ⟨before', hsteps', -, -, henter'⟩ := FileTree.locate_named hd hm
  obtain ⟨rfl, hn'⟩ := List.append_inj' ((Path.steps_of_fileName? h.fileName).symm.trans hsteps) rfl
  have hsplit : Path.steps ((Path.parent? p).getD "") ++ [sub] ++ [name] = before' ++ [m] := by
    rw [← hsteps', h.steps, List.append_assoc]
    rfl
  obtain ⟨rfl, hm'⟩ := List.append_inj' hsplit rfl
  obtain rfl : name = n := List.singleton_inj.1 hn'
  obtain rfl : name = m := List.singleton_inj.1 hm'
  obtain ⟨mid, hmid, hsub⟩ := FileTree.enter_append_eq_ok.1 henter'
  obtain rfl : mid = s.parent := Except.ok.inj (hmid.symm.trans henter)
  have hparent : d.parent = s.parent ++ [sub] :=
    FileTree.enter_names (by simpa using (Role.steps_subdirectory h.subdirectory).2) hsub
  have hsource : s.address = s.parent ++ [name] := FileTree.Place.address_of_named hn
  have htarget : d.address = s.parent ++ [sub, name] := by
    rw [FileTree.Place.address_of_named hm, hparent, List.append_assoc]
    rfl
  rw [hsource, htarget] at hmoved
  refine ⟨s, d, moved, hs, hd, henter, hsource, htarget, hslash, hmoved.resolve_left ?_⟩
  rintro ⟨he, -⟩
  simpa using congrArg List.length he

/-- How routing can go: the result for a path and a role, and the tree that it leaves. -/
inductive Routes (p : String) (r : Role) (before : FileTree) :
    Except RouteError (Option String) → FileTree → Prop
  | stays (h : destination p r = .ok none) : Routes p r before (.ok none) before
  | refused {e : RouteError} (h : destination p r = .error e) : Routes p r before (.error e) before
  | unmade {target : String} {e : OsError} {made : FileTree}
      (h : destination p r = .ok (some target))
      (hmade : before.createDirectories ((Path.parent? target).getD "") = (.error e, made)) :
      Routes p r before (.error (.createDirectory ((Path.parent? target).getD "") e)) made
  | unmoved {target : String} {e : OsError} {made : FileTree}
      (h : destination p r = .ok (some target))
      (hmade : before.createDirectories ((Path.parent? target).getD "") = (.ok (), made))
      (hmove : made.rename p target = .error e) :
      Routes p r before (.error (.move p target e)) made
  | moved {target : String} {made after : FileTree}
      (h : destination p r = .ok (some target))
      (hmade : before.createDirectories ((Path.parent? target).getD "") = (.ok (), made))
      (hmove : made.rename p target = .ok after) :
      Routes p r before (.ok (some target)) after

theorem moveInto_run (p target : String) (d : Desk) :
    (moveInto p target : StateM Desk _).run d =
      match d.tree.createDirectories ((Path.parent? target).getD "") with
      | (.error e, made) =>
        (.error (.createDirectory ((Path.parent? target).getD "") e), { d with tree := made })
      | (.ok (), made) =>
        match made.rename p target with
        | .error e => (.error (.move p target e), { d with tree := made })
        | .ok after => (.ok (), { d with tree := after }) := by
  cases hmade : d.tree.createDirectories ((Path.parent? target).getD "") with
  | mk result made =>
    cases result with
    | error e =>
      simp only [moveInto, Host.createDirectories, bind, StateT.bind, StateT.run, hmade]
      rfl
    | ok u =>
      simp only [moveInto, Host.createDirectories, Host.rename, Desk.change, bind, StateT.bind,
        StateT.run, hmade]
      cases made.rename p target <;> rfl

theorem route_run (p : String) (r : Role) (d : Desk) :
    (route p r : StateM Desk _).run d =
      match destination p r with
      | .error e => (.error e, d)
      | .ok none => (.ok none, d)
      | .ok (some target) =>
        match (moveInto p target : StateM Desk _).run d with
        | (.error e, d') => (.error e, d')
        | (.ok (), d') => (.ok (some target), d') := by
  unfold route
  cases destination p r with
  | error e => rfl
  | ok target? =>
    cases target? with
    | none => rfl
    | some target =>
      simp only [bind, StateT.bind, StateT.run]
      cases (moveInto p target : StateM Desk _) d with
      | mk result d' => cases result <;> rfl

theorem route_routes (p : String) (r : Role) (d : Desk) :
    Routes p r d.tree ((route p r : StateM Desk _).run d).1
      ((route p r : StateM Desk _).run d).2.tree := by
  rw [route_run]
  cases h : destination p r with
  | error e => exact .refused h
  | ok target? =>
    cases target? with
    | none => exact .stays h
    | some target =>
      dsimp only
      rw [moveInto_run]
      cases hmade : d.tree.createDirectories ((Path.parent? target).getD "") with
      | mk result made =>
        cases result with
        | error e => exact .unmade h hmade
        | ok u =>
          dsimp only
          cases hmove : made.rename p target with
          | error e => exact .unmoved h hmade hmove
          | ok after => exact .moved h hmade hmove

end SpringScaffold
