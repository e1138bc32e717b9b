import SpringScaffold.Proofs.Routing

/-! Routing is all or nothing (`route_effect`). Paths count as they lead once the directories on the
way to the target are made: before that a path may lead nowhere, and afterwards the way to the
target may be gone with what was moved (`route_cuts_way`). -/

namespace SpringScaffold

open FileTree

/-- What a path led to has gone from the directory `parent`, where it was called `name`, into the
directory `sub` there. -/
structure Relocated (p target : String) (before made after moved : FileTree) (parent : List String)
    (sub name : String) : Prop where
  /-- The directories on the way to the target are made first. -/
  grown : Grown (Path.ancestors ((Path.parent? target).getD "")) before made
  source : made.Names p (parent ++ [name])
  place : made.Names target (parent ++ [sub, name])
  /-- Making directories leads neither path elsewhere. -/
  steady : ∀ q, (before.Names p q → q = parent ++ [name]) ∧
    (before.Names target q → q = parent ++ [sub, name])
  opened : made.open? p = .ok moved
  /-- What the path led to before is what was moved. -/
  same : ∀ u, before.open? p = .ok u → ∀ q, moved.node? q = u.node? q
  arrived : after.get? (parent ++ [sub, name]) = some moved
  gone : ∀ q, parent ++ [name] <+: q → after.get? q = none
  kept : ∀ q k, before.node? q = some k → ¬ parent ++ [name] <+: q → q ≠ parent ++ [sub, name] →
    after.node? q = some k
  fresh : ∀ q k, after.node? q = some k → before.node? q = none →
    parent ++ [sub, name] <+: q ∨
      k = .directory ∧ ∃ a ∈ Path.ancestors ((Path.parent? target).getD ""), made.Names a q
  left : ∀ u, after.open? p ≠ .ok u
  /-- The target leads to what was moved unless it leads through where that was. -/
  opens : (∀ way rest q, Path.steps target = way ++ rest → made.enter [] way = .ok q →
    ¬ parent ++ [name] <+: q) → after.open? target = .ok moved
  opens_file : moved.isDirectory = false → after.open? target = .ok moved

/-- What routing does to a tree, for each of its results. -/
def RouteEffect (p : String) (r : Role) (before : FileTree) :
    Except RouteError (Option String) → FileTree → Prop
  | .ok none, after => after = before
  | .error (.missingFileName _), after => after = before
  | .error (.createDirectory way _), after =>
    ∃ target sub name, IsTarget p r target sub name ∧ way = (Path.parent? target).getD "" ∧
      Grown (Path.ancestors way) before after
  | .error (.move source target _), after =>
    ∃ sub name, IsTarget p r target sub name ∧ source = p ∧
      Grown (Path.ancestors ((Path.parent? target).getD "")) before after
  | .ok (some target), after =>
    ∃ sub name, IsTarget p r target sub name ∧ ∃ made moved parent,
      Relocated p target before made after moved parent sub name

section Relocated

variable {p target sub name : String} {r : Role} {before made after : FileTree}

/-- A directory that is made on the way to the target of a path that leads somewhere is the last one
on that way. -/
theorem eq_of_made (h : IsTarget p r target sub name)
    (hgrown : Grown (Path.ancestors ((Path.parent? target).getD "")) before made)
    (hroot : before.isDirectory = true) {parent : List String}
    (henter : before.enter [] (Path.steps ((Path.parent? p).getD "")) = .ok parent)
    {q : List String} (hnone : before.node? q = none) (hq : made.node? q ≠ none) :
    q = parent ++ [sub] := by
  obtain ⟨k, hk⟩ := Option.ne_none_iff_exists'.1 hq
  obtain ⟨rfl, a, ha, place, hplace, rfl⟩ := hgrown.added hnone hk
  have hway := enter_of_locate hplace hk
  have hsteps : Path.steps ((Path.parent? target).getD "") =
      Path.steps ((Path.parent? p).getD "") ++ [sub] := by
    rw [Path.steps_parent, h.steps, List.append_cons, List.dropLast_concat]
  rcases Path.steps_prefix_of_mem_ancestors ha with rfl | hprefix
  · rw [hsteps] at hway
    obtain ⟨mid, hmid, hsub⟩ := enter_append_eq_ok.1 hway
    rw [enter_unique henter hmid]
    exact enter_names (by simpa using (Role.steps_subdirectory h.subdirectory).2) hsub
  · -- the directories before the last one exist
    rw [hsteps, List.dropLast_concat] at hprefix
    obtain ⟨rest, hrest⟩ := hprefix
    rw [← hrest] at henter
    obtain ⟨mid, hmid, -⟩ := enter_append_eq_ok.1 henter
    have hd := enter_directory (node?_root.2 hroot) hmid
    rw [enter_unique hmid hway, hnone] at hd
    cases hd

/-- Making the directories for a path that leads somewhere adds nothing to what it leads to. -/
theorem node?_of_made (h : IsTarget p r target sub name)
    (hgrown : Grown (Path.ancestors ((Path.parent? target).getD "")) before made)
    {place : Place} {u moved : FileTree} (hplace : before.locate p = .ok place)
    (haddress : place.address = place.parent ++ [name])
    (hu : before.get? place.address = some u) (hmoved : made.get? place.address = some moved)
    (q : List String) : moved.node? q = u.node? q := by
  have hn : place.name? = some name := by
    rw [Place.address, List.append_cancel_left_eq] at haddress
    cases hname : place.name? <;> simp_all
  rw [haddress] at hu hmoved
  rw [← node?_append hmoved, ← node?_append hu]
  cases hq : before.node? (place.parent ++ [name] ++ q) with
  | some k => exact hgrown.kept hq
  | none =>
    by_contra hne
    have heq := eq_of_made h hgrown (isDirectory_of_get? hu) (enter_parent hplace hn) hq hne
    obtain ⟨-, hnil⟩ : name = sub ∧ q = [] := by simpa using heq
    rw [hnil, List.append_nil, node?, hu] at hq
    cases hq

theorem relocated (h : IsTarget p r target sub name)
    (hmade : before.createDirectories ((Path.parent? target).getD "") = (.ok (), made))
    (hmove : made.rename p target = .ok after) :
    ∃ moved parent, Relocated p target before made after moved parent sub name := by
  have hgrown := createDirectories_grown before ((Path.parent? target).getD "")
  rw [hmade] at hgrown
  obtain ⟨s, d, moved, hs, hd, -, hsource, htarget, hslash, hmoved⟩ := h.moved hmove
  have hroot : made.node? [] = some .directory := node?_root.2 (isDirectory_of_get? hmoved.found)
  have hfound : made.get? s.address = some moved := hsource ▸ hmoved.found
  have hnames : made.Names p (s.parent ++ [name]) := ⟨s, hs, hsource.symm⟩
  have hnames' : made.Names target (s.parent ++ [sub, name]) := ⟨d, hd, htarget.symm⟩
  have hopens : (∀ way rest q, Path.steps target = way ++ rest → made.enter [] way = .ok q →
      ¬ s.parent ++ [name] <+: q) → after.open? target = .ok moved := by
    intro hway
    have hd' : after.locate target = .ok d := locate_along hroot
      (fun way rest q hsteps hq hdir => hmoved.directory_kept hdir (hway way rest q hsteps hq)) hd
    exact open?_of_locate hd' (htarget ▸ hmoved.arrived) fun hfile => (hslash hfile).2
  refine ⟨moved, s.parent, ?_⟩
  constructor
  case grown => exact hgrown
  case source => exact hnames
  case place => exact hnames'
  case steady =>
    exact fun q => ⟨fun hq => (hgrown.keepsDirectories.names hq).unique hnames,
      fun hq => (hgrown.keepsDirectories.names hq).unique hnames'⟩
  case opened => exact open?_of_locate hs hfound fun hfile => (hslash hfile).1
  case same =>
    intro u hu q
    obtain ⟨place, hplace, hget⟩ := open?_eq_ok hu
    obtain rfl : place = s := locate_unique hplace hs
    exact node?_of_made h hgrown hplace hsource hget hfound q
  case arrived => exact hmoved.arrived
  case gone => exact fun q => hmoved.gone
  case kept => exact fun q k hq => hmoved.node?_kept (hgrown.kept hq)
  case fresh =>
    exact fun q k hq hnone => (hmoved.node?_origin hq).imp_right (hgrown.added hnone)
  case left =>
    intro u hu
    obtain ⟨place, hplace, hget⟩ := open?_eq_ok hu
    rw [locate_unique hplace hs, hsource, hmoved.gone (List.prefix_refl _)] at hget
    cases hget
  case opens => exact hopens
  case opens_file =>
    exact fun hfile => hopens fun _ _ _ _ hway =>
      hmoved.not_below_file hfile (enter_directory hroot hway)

end Relocated

theorem destination_eq_error {p : String} {r : Role} {e : RouteError}
    (h : destination p r = .error e) : e = .missingFileName p := by
  unfold destination at h
  split at h
  · cases h
  · split at h
    · exact (Except.error.inj h).symm
    · cases h

theorem Routes.effect {p : String} {r : Role} {before after : FileTree}
    {result : Except RouteError (Option String)} (h : Routes p r before result after) :
    RouteEffect p r before result after := by
  cases h with
  | stays h => exact rfl
  | refused h =>
    cases destination_eq_error h
    exact rfl
  | @unmade target e _ h hmade =>
    obtain ⟨sub, name, htarget⟩ := isTarget_of_destination h
    have hgrown := createDirectories_grown before ((Path.parent? target).getD "")
    rw [hmade] at hgrown
    exact ⟨target, sub, name, htarget, rfl, hgrown⟩
  | @unmoved target e _ h hmade hmove =>
    obtain ⟨sub, name, htarget⟩ := isTarget_of_destination h
    have hgrown := createDirectories_grown before ((Path.parent? target).getD "")
    rw [hmade] at hgrown
    exact ⟨sub, name, htarget, rfl, hgrown⟩
  | @moved target made _ h hmade hmove =>
    obtain ⟨sub, name, htarget⟩ := isTarget_of_destination h
    obtain ⟨moved, parent, hmoved⟩ := relocated htarget hmade hmove
    exact ⟨sub, name, htarget, made, moved, parent, hmoved⟩

/-- Without a move nothing is lost and nothing but directories on the way to the target is made. A
move takes all that the path leads to and leaves the rest alone. -/
theorem route_effect (p : String) (r : Role) (d : Desk) :
    RouteEffect p r d.tree ((route p r : StateM Desk _).run d).1
      ((route p r : StateM Desk _).run d).2.tree :=
  (route_routes p r d).effect

/-- A directory can be on the way to its own target, which then leads nowhere. A directory that is
made for the target can be on the way to the path, which then leads to a file that it did not lead
to before. -/
theorem route_cuts_way :
    (¬ ∀ (p : String) (r : Role) (d : Desk) (target : String) (u : FileTree),
      ((route p r : StateM Desk _).run d).1 = .ok (some target) → d.tree.open? p = .ok u →
      ((route p r : StateM Desk _).run d).2.tree.open? target = .ok u) ∧
    ¬ ∀ (p : String) (r : Role) (d : Desk) (target : String) (q : List String) (k : Node),
      ((route p r : StateM Desk _).run d).1 = .ok (some target) → d.tree.node? q = some k →
      (¬ ∃ source, d.tree.Names p source ∧ source <+: q) → ¬ d.tree.Names target q →
      ((route p r : StateM Desk _).run d).2.tree.node? q = some k := by
  constructor
  · intro h
    have hlost := h "D/../D" .controller ⟨.directory [("D", .directory [])], []⟩
      "D/../controller/D" (.directory []) (by decide +kernel) rfl
    cases hlost
  · intro h
    let d : Desk := ⟨.directory [("X", .file ByteArray.empty)], []⟩
    have htaken := h "new/../X" .controller d "new/../controller/X" ["X"] (.file ByteArray.empty)
      (by decide +kernel) rfl ?_ ?_
    · have hgone : (((route "new/../X" .controller : StateM Desk _).run d).2.tree.node?
          ["X"]).isSome = false := by decide +kernel
      rw [htaken] at hgone
      cases hgone
    · rintro ⟨source, ⟨place, hplace, -⟩, -⟩
      have hlost : d.tree.locate "new/../X" = .error .notFound := by decide +kernel
      cases hplace.symm.trans hlost
    · rintro ⟨place, hplace, -⟩
      have hlost : d.tree.locate "new/../controller/X" = .error .notFound := by decide +kernel
      cases hplace.symm.trans hlost

end SpringScaffold
