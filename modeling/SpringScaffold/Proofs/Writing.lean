import Mathlib.Logic.Function.Basic
import SpringScaffold.Command.Output
import SpringScaffold.Proofs.Routing

/-! What writing generated files does to the regular files of a tree. A file that is written and
routed is one update of the contents at two places, and no directory is ever lost, so the output
directory stays where it is from the first file to the last. -/

namespace SpringScaffold

open FileTree

namespace FileTree

theorem Grown.file?_eq {paths : List String} {a b : FileTree} (h : Grown paths a b) :
    b.file? = a.file? := by
  funext q
  cases ha : a.node? q with
  | some k => exact file?_congr (by rw [ha, h.kept ha])
  | none =>
    rw [file?_of_node?_eq_none ha]
    cases hb : b.node? q with
    | none => exact file?_of_node?_eq_none hb
    | some k =>
      obtain ⟨rfl, -⟩ := h.added ha hb
      rw [file?, hb]

theorem write_eq_ok {t t' : FileTree} {p content : String} (h : t.write p content = .ok t') :
    ∃ place n, t.locate p = .ok place ∧ place.name? = some n ∧ place.slash = false ∧
      t.node? place.address ≠ some .directory ∧
      t' = t.set (some (.file content.toUTF8)) (place.parent ++ [n]) := by
  obtain ⟨place, hplace, h⟩ := bind_eq_ok.1 h
  split at h
  · cases h
  next n hn =>
  simp only [bind, Except.bind, pure, Except.pure] at h
  split at h
  · cases h
  next hslash =>
  split at h
  · cases h
  next hold =>
  cases h
  refine ⟨place, n, hplace, hn, by simpa using hslash, ?_, rfl⟩
  intro hd
  obtain ⟨entries, hentries⟩ := node?_eq_directory.1 hd
  exact hold entries hentries

theorem keepsDirectories_set {t : FileTree} {p : List String} {n : String}
    (h : t.node? (p ++ [n]) ≠ some .directory) (new : Option FileTree) :
    KeepsDirectories t (t.set new (p ++ [n])) := by
  intro q hq
  rw [node?_set_of_not_below, hq]
  intro hbelow
  by_cases hne : q = p ++ [n]
  · exact h (hne ▸ hq)
  · rw [node?_eq_none_of_below h hbelow hne] at hq
    cases hq

theorem file?_set_file {t : FileTree} {p : List String} {n : String}
    (hp : t.node? p = some .directory) (h : t.node? (p ++ [n]) ≠ some .directory)
    (content : ByteArray) :
    (t.set (some (.file content)) (p ++ [n])).file? =
      Function.update t.file? (p ++ [n]) (some content) := by
  funext q
  by_cases hq : q = p ++ [n]
  · rw [hq, Function.update_self, file?_eq_some, node?, get?_set hp]
    rfl
  · rw [Function.update_of_ne hq]
    by_cases hbelow : p ++ [n] <+: q
    · rw [file?_of_node?_eq_none (node?_eq_none_of_below h hbelow hq)]
      obtain ⟨r, rfl⟩ := hbelow
      cases r with
      | nil => exact absurd (List.append_nil _) hq
      | cons m r =>
        apply file?_of_node?_eq_none
        rw [node?, List.append_assoc, List.singleton_append, get?_set hp]
        rfl
    · exact file?_congr (node?_set_of_not_below _ _ hbelow)

/-- What writing a file does. -/
theorem write_contents {t t' : FileTree} (ht : t.isDirectory = true) {p content : String}
    (h : t.write p content = .ok t') :
    ∃ place n, t.locate p = .ok place ∧ place.name? = some n ∧ KeepsDirectories t t' ∧
      t'.file? = Function.update t.file? (place.parent ++ [n]) (some content.toUTF8) := by
  obtain ⟨place, n, hplace, hn, -, hold, rfl⟩ := write_eq_ok h
  rw [Place.address_of_named hn] at hold
  exact ⟨place, n, hplace, hn, keepsDirectories_set hold _,
    file?_set_file (node?_parent ht hplace) hold _⟩

section Moved

variable {source target : List String} {content : ByteArray} {a b : FileTree}

theorem Moved.keepsDirectories (h : Moved source target (.file content) a b) :
    KeepsDirectories a b := fun _ hq => h.directory_kept hq (h.not_below_file rfl hq)

theorem Moved.file?_eq (h : Moved source target (.file content) a b) :
    b.file? = Function.update (Function.update a.file? source none) target (some content) := by
  funext q
  by_cases hq : q = target
  · rw [hq, Function.update_self, file?_eq_some, node?_of_get? h.arrived]
    rfl
  rw [Function.update_of_ne hq]
  by_cases hbelow : source <+: q
  · have hgone : b.file? q = none := file?_of_node?_eq_none (node?_eq_none.2 (h.gone hbelow))
    rw [hgone]
    by_cases hne : q = source
    · rw [hne, Function.update_self]
    · have hfile : a.node? source ≠ some .directory := by simp [node?_of_get? h.found, node]
      rw [Function.update_of_ne hne,
        file?_of_node?_eq_none (node?_eq_none_of_below hfile hbelow hne)]
  · have hne : q ≠ source := fun he => hbelow (he ▸ List.prefix_refl _)
    rw [Function.update_of_ne hne]
    by_cases habove : target <+: q
    · have hfile : b.node? target ≠ some .directory := by simp [node?_of_get? h.arrived, node]
      rw [file?_of_node?_eq_none (node?_eq_none_of_below hfile habove hq),
        file?_of_node?_eq_none (node?_eq_none.2 (h.free habove hq))]
    · exact file?_congr (h.kept hbelow habove)

end Moved

end FileTree

/-! ### One file -/

/-- Where a file is written, where it ends up, and what it holds. The places are below the output
directory. -/
structure Delivery where
  first : List String
  last : List String
  content : String
  deriving DecidableEq, Repr

/-- The contents of the files of a tree after a delivery below a place. -/
def Delivery.apply (base : List String) (dl : Delivery) (files : List String → Option ByteArray) :
    List String → Option ByteArray :=
  Function.update (Function.update files (base ++ dl.first) none) (base ++ dl.last)
    (some dl.content.toUTF8)

namespace Delivery

variable {top q : List String} {dl : Delivery} {files : List String → Option ByteArray}

theorem apply_of_ne (hfirst : q ≠ top ++ dl.first) (hlast : q ≠ top ++ dl.last) :
    dl.apply top files q = files q := by
  rw [apply, Function.update_of_ne hlast, Function.update_of_ne hfirst]

theorem apply_last : dl.apply top files (top ++ dl.last) = some dl.content.toUTF8 :=
  Function.update_self ..

/-- A place without a file stays so unless something is delivered there. -/
theorem apply_eq_none (hq : q = top ++ dl.first ∨ files q = none) (hlast : q ≠ top ++ dl.last) :
    dl.apply top files q = none := by
  rw [apply, Function.update_of_ne hlast]
  by_cases hfirst : q = top ++ dl.first
  · rw [hfirst, Function.update_self]
  · rw [Function.update_of_ne hfirst]
    exact hq.resolve_left hfirst

/-- The contents after deliveries below a place, one after the other. -/
def applyAll (top : List String) (deliveries : List Delivery)
    (files : List String → Option ByteArray) : List String → Option ByteArray :=
  deliveries.foldl (fun contents dl => dl.apply top contents) files

theorem applyAll_cons (rest : List Delivery) :
    applyAll top (dl :: rest) files = applyAll top rest (dl.apply top files) := rfl

end Delivery

namespace GeneratedFile

def delivery (f : GeneratedFile) : Delivery where
  first := Path.steps f.path
  last :=
    match f.role.subdirectory f.path with
    | none => Path.steps f.path
    | some sub => (Path.steps f.path).dropLast ++ sub :: (Path.steps f.path).getLast?.toList
  content := f.content

/-- The path of the file leads downwards to a name. -/
def LeadsDown (f : GeneratedFile) : Prop := Path.steps f.path ≠ [] ∧ ".." ∉ Path.steps f.path

end GeneratedFile

theorem Role.subdirectory_join (r : Role) {base p : String} (h : Path.steps p ≠ []) :
    r.subdirectory (Path.join base p) = r.subdirectory p := by
  cases r with
  | api => simp only [subdirectory, directoryByName, Path.stem?, Path.fileName?_join h]
  | controller => rfl
  | service => rfl
  | model => rfl
  | other => rfl

/-! ### Running on a desk -/

section Run

variable {α β : Type} (d : Desk)

theorem run_bind (x : Attempt (StateM Desk) α) (f : α → Attempt (StateM Desk) β) :
    (x >>= f).run.run d =
      match x.run.run d with
      | (.ok a, d') => (f a).run.run d'
      | (.error e, d') => (.error e, d') := by
  simp only [bind, ExceptT.bind, ExceptT.run, ExceptT.mk, StateT.bind, StateT.run]
  cases x d with
  | mk result d' => cases result <;> rfl

theorem lift_run (x : StateM Desk α) :
    (liftM x : Attempt (StateM Desk) α).run.run d = (.ok (x.run d).1, (x.run d).2) := rfl

theorem attempt_run (what : String) (step : StateM Desk (Except OsError α)) :
    (attempt what step).run.run d =
      match step.run d with
      | (.ok a, d') => (.ok a, d')
      | (.error e, d') => (.error ⟨what, [e.message]⟩, d') := by
  rw [attempt, run_bind, lift_run]
  cases step.run d with
  | mk result d' => cases result <;> rfl

theorem createDirectories_run (p : String) :
    (Host.createDirectories p : StateM Desk _).run d =
      ((d.tree.createDirectories p).1, { d with tree := (d.tree.createDirectories p).2 }) := rfl

theorem write_run (p content : String) :
    (Host.write p content : StateM Desk _).run d =
      match d.tree.write p content with
      | .ok t => (.ok (), { d with tree := t })
      | .error e => (.error e, d) := rfl

end Run

/-- The three steps of writing a file, each with its failure. -/
theorem writeFile_run (base : String) (f : GeneratedFile) (d : Desk) :
    (writeFile base f : Attempt (StateM Desk) Unit).run.run d =
      match d.tree.createDirectories ((Path.parent? (Path.join base f.path)).getD "") with
      | (.error e, made) =>
        (.error ⟨"failed to create directory " ++ (Path.parent? (Path.join base f.path)).getD "",
          [e.message]⟩, { d with tree := made })
      | (.ok (), made) =>
        match made.write (Path.join base f.path) f.content with
        | .error e =>
          (.error ⟨"failed to write " ++ Path.join base f.path, [e.message]⟩,
            { d with tree := made })
        | .ok written =>
          match (route (Path.join base f.path) f.role : StateM Desk _).run
            { d with tree := written } with
          | (.error e, d') => (.error (relocation (Path.join base f.path) e), d')
          | (.ok target, d') =>
            (.ok (), { d' with
              notes := d'.notes ++ ["  wrote " ++ target.getD (Path.join base f.path)] }) := by
  rw [writeFile, run_bind, attempt_run, createDirectories_run]
  cases d.tree.createDirectories ((Path.parent? (Path.join base f.path)).getD "") with
  | mk result made =>
    cases result with
    | error e => rfl
    | ok u =>
      dsimp only
      rw [run_bind, attempt_run, write_run]
      cases made.write (Path.join base f.path) f.content with
      | error e => rfl
      | ok written =>
        dsimp only
        rw [run_bind, lift_run]
        cases (route (Path.join base f.path) f.role : StateM Desk _).run
          { d with tree := written } with
        | mk result d' => cases result <;> rfl

/-- What routing the file `name` in the directory `parent` does to the contents of a tree, where
`sub?` is the directory that its role calls for. -/
def RouteContents (before : FileTree) (parent : List String) (name : String)
    (content : ByteArray) (sub? : Option String) :
    Except RouteError (Option String) → FileTree → Prop
  | .ok _, after => after.file? =
      Function.update (Function.update before.file? (parent ++ [name]) none)
        (parent ++ (sub?.toList ++ [name])) (some content)
  | .error _, after => after.file? = before.file?

/-- Routing a file moves its content, or nothing. -/
theorem Routes.contents {p : String} {r : Role} {before after : FileTree}
    {result : Except RouteError (Option String)} (h : Routes p r before result after)
    {place : FileTree.Place} {n : String} {content : ByteArray}
    (hplace : before.locate p = .ok place) (hn : place.name? = some n)
    (hfile : before.file? (place.parent ++ [n]) = some content) :
    KeepsDirectories before after ∧
      RouteContents before place.parent n content (r.subdirectory p) result after := by
  cases h with
  | stays h =>
    refine ⟨.refl _, ?_⟩
    rw [subdirectory_of_destination h, RouteContents, Option.toList_none, List.nil_append,
      Function.update_idem, ← hfile, Function.update_eq_self]
  | refused h => exact ⟨.refl _, rfl⟩
  | @unmade target e _ h hmade =>
    have hgrown := createDirectories_grown before ((Path.parent? target).getD "")
    rw [hmade] at hgrown
    exact ⟨hgrown.keepsDirectories, hgrown.file?_eq⟩
  | @unmoved target e _ h hmade hmove =>
    have hgrown := createDirectories_grown before ((Path.parent? target).getD "")
    rw [hmade] at hgrown
    exact ⟨hgrown.keepsDirectories, hgrown.file?_eq⟩
  | @moved target made _ h hmade hmove =>
    have hgrown := createDirectories_grown before ((Path.parent? target).getD "")
    rw [hmade] at hgrown
    obtain ⟨sub, name, htarget⟩ := isTarget_of_destination h
    obtain ⟨s, d, moved, hs, -, -, hsource, -, -, hmoved⟩ := htarget.moved hmove
    obtain rfl : s = place := locate_unique hs hplace
    obtain rfl : name = n := by
      rw [Place.address_of_named hn] at hsource
      simpa using hsource.symm
    have hcontent := hgrown.kept (file?_eq_some.1 hfile)
    rw [node?_eq_file, hmoved.found, Option.some.injEq] at hcontent
    subst hcontent
    refine ⟨hgrown.keepsDirectories.trans hmoved.keepsDirectories, ?_⟩
    rw [htarget.subdirectory, RouteContents, hmoved.file?_eq, hgrown.file?_eq]
    rfl

/-- What writing and routing a file does to the contents of a tree. -/
def WriteEffect (base : String) (f : GeneratedFile) (before : FileTree) :
    Except Failure Unit → FileTree → Prop
  | .ok (), after => ∃ place, after.enter [] (Path.steps base) = .ok place ∧
      after.file? = f.delivery.apply place before.file?
  | .error _, after => after.file? = before.file? ∨
      ∃ place, after.enter [] (Path.steps base) = .ok place ∧
        after.file? = Function.update before.file? (place ++ f.delivery.first)
          (some f.content.toUTF8)

/-- The places of a delivery, as a path below the output directory leads to them. -/
theorem GeneratedFile.LeadsDown.place {base : String} {f : GeneratedFile} (hf : f.LeadsDown)
    {t : FileTree} {place : FileTree.Place} {n : String}
    (hplace : t.locate (Path.join base f.path) = .ok place) (hn : place.name? = some n) :
    ∃ top, t.enter [] (Path.steps base) = .ok top ∧
      top ++ f.delivery.first = place.parent ++ [n] ∧
      top ++ f.delivery.last =
        place.parent ++ ((f.role.subdirectory f.path).toList ++ [n]) := by
  obtain ⟨hne, hup⟩ := hf
  obtain ⟨way, name, hsteps⟩ : ∃ way name, Path.steps f.path = way ++ [name] :=
    ⟨_, _, (List.dropLast_concat_getLast hne).symm⟩
  obtain ⟨before, hpath, -, -, henter⟩ := locate_named hplace hn
  rw [Path.steps_join, hsteps, ← List.append_assoc] at hpath
  obtain ⟨rfl, hname⟩ := List.append_inj' hpath rfl
  obtain rfl : name = n := List.singleton_inj.1 hname
  obtain ⟨top, htop, hway⟩ := enter_append_eq_ok.1 henter
  have hnames : ∀ p ∈ way, Path.IsName p := by
    intro p hp
    have hmem : p ∈ Path.steps f.path := by simp [hsteps, hp]
    obtain ⟨hempty, hdot⟩ := Path.ne_of_mem_steps hmem
    exact ⟨hempty, hdot, fun he => hup (he ▸ hmem)⟩
  have hparent : place.parent = top ++ way := enter_names hnames hway
  refine ⟨top, htop, ?_, ?_⟩
  · simp [GeneratedFile.delivery, hsteps, hparent]
  · cases hsub : f.role.subdirectory f.path <;>
      simp [GeneratedFile.delivery, hsteps, hparent, hsub]

theorem writeFile_effect (base : String) {f : GeneratedFile} (hf : f.LeadsDown) {d : Desk}
    (ht : d.tree.isDirectory = true) :
    KeepsDirectories d.tree ((writeFile base f : Attempt (StateM Desk) Unit).run.run d).2.tree ∧
      WriteEffect base f d.tree ((writeFile base f : Attempt (StateM Desk) Unit).run.run d).1
        ((writeFile base f : Attempt (StateM Desk) Unit).run.run d).2.tree := by
  have hgrown := createDirectories_grown d.tree ((Path.parent? (Path.join base f.path)).getD "")
  rw [writeFile_run]
  cases hmade : d.tree.createDirectories ((Path.parent? (Path.join base f.path)).getD "") with
  | mk result made =>
  rw [hmade] at hgrown
  dsimp only at hgrown
  cases result with
  | error e => exact ⟨hgrown.keepsDirectories, .inl hgrown.file?_eq⟩
  | ok u =>
  dsimp only
  cases hwrite : made.write (Path.join base f.path) f.content with
  | error e => exact ⟨hgrown.keepsDirectories, .inl hgrown.file?_eq⟩
  | ok written =>
  obtain ⟨place, n, hplace, hn, hkeeps, hwritten⟩ :=
    write_contents (hgrown.keepsDirectories.isDirectory ht) hwrite
  obtain ⟨top, htop, hfirst, hlast⟩ := hf.place hplace hn
  rw [hgrown.file?_eq] at hwritten
  -- the place of the file is the one that routing starts from, since no directory was lost
  have hroute := (route_routes (Path.join base f.path) f.role ⟨written, d.notes⟩).contents
    (hkeeps.locate hplace) hn (by rw [hwritten, Function.update_self])
  dsimp only
  generalize (route (Path.join base f.path) f.role : StateM Desk _).run _ = out at hroute ⊢
  obtain ⟨result, d'⟩ := out
  obtain ⟨hkept, hcontents⟩ := hroute
  rw [Role.subdirectory_join _ hf.1] at hcontents
  have hall := (hgrown.keepsDirectories.trans hkeeps).trans hkept
  have htop' := (hkeeps.trans hkept).enter htop
  cases result with
  | error e => exact ⟨hall, .inr ⟨top, htop', hcontents.trans (hfirst ▸ hwritten)⟩⟩
  | ok target =>
    refine ⟨hall, top, htop', hcontents.trans ?_⟩
    rw [hwritten, Function.update_idem, Delivery.apply, hfirst, hlast]
    rfl

/-! ### A list of files -/

/-- The place is none of those that the deliveries are about. Where the output directory does not
exist, there are no such places. -/
def AwayFrom (base : String) (deliveries : List Delivery) (t : FileTree) (q : List String) : Prop :=
  ∀ top, t.enter [] (Path.steps base) = .ok top →
    ∀ dl ∈ deliveries, q ≠ top ++ dl.first ∧ q ≠ top ++ dl.last

/-- What writing a list of files does to the contents of a tree: the output directory is one place
throughout, and below it the deliveries are made one after the other. -/
structure WritesEffect (base : String) (files : List GeneratedFile) (before : FileTree)
    (result : Except Failure Unit) (after : FileTree) : Prop where
  keeps : KeepsDirectories before after
  based : result = .ok () → files ≠ [] → ∃ top, after.enter [] (Path.steps base) = .ok top
  contents : result = .ok () → ∀ top, after.enter [] (Path.steps base) = .ok top →
    after.file? = Delivery.applyAll top (files.map (·.delivery)) before.file?
  others : ∀ q, AwayFrom base (files.map (·.delivery)) after q → after.file? q = before.file? q

theorem WriteEffect.of_away {base : String} {f : GeneratedFile} {before after later : FileTree}
    {result : Except Failure Unit} (h : WriteEffect base f before result after)
    (hlater : KeepsDirectories after later) {rest : List Delivery} {q : List String}
    (hq : AwayFrom base (f.delivery :: rest) later q) : after.file? q = before.file? q := by
  cases result with
  | ok u =>
    obtain ⟨top, htop, hcontents⟩ := h
    obtain ⟨hfirst, hlast⟩ := hq top (hlater.enter htop) _ List.mem_cons_self
    rw [hcontents, Delivery.apply_of_ne hfirst hlast]
  | error e =>
    rcases h with hsame | ⟨top, htop, hcontents⟩
    · rw [hsame]
    · obtain ⟨hfirst, -⟩ := hq top (hlater.enter htop) _ List.mem_cons_self
      rw [hcontents, Function.update_of_ne hfirst]

theorem writeFiles_effect (base : String) {files : List GeneratedFile}
    (hfiles : ∀ f ∈ files, f.LeadsDown) {d : Desk} (ht : d.tree.isDirectory = true) :
    WritesEffect base files d.tree
      ((writeFiles base files : Attempt (StateM Desk) Unit).run.run d).1
      ((writeFiles base files : Attempt (StateM Desk) Unit).run.run d).2.tree := by
  induction files generalizing d with
  | nil => exact ⟨.refl _, fun _ h => absurd rfl h, fun _ _ _ => rfl, fun _ _ => rfl⟩
  | cons f rest ih =>
    have hstep := writeFile_effect base (hfiles f List.mem_cons_self) ht
    rw [writeFiles, run_bind]
    generalize (writeFile base f : Attempt (StateM Desk) Unit).run.run d = out at hstep ⊢
    obtain ⟨result, d'⟩ := out
    obtain ⟨hkeeps, heffect⟩ := hstep
    cases result with
    | error e =>
      exact ⟨hkeeps, nofun, nofun, fun q hq => heffect.of_away (.refl _) hq⟩
    | ok u =>
      have hrest := ih (fun g hg => hfiles g (List.mem_cons_of_mem f hg)) (hkeeps.isDirectory ht)
      have ⟨top, htop, hcontents⟩ := heffect
      refine ⟨hkeeps.trans hrest.keeps, fun _ _ => ⟨top, hrest.keeps.enter htop⟩, ?_, ?_⟩
      · -- the output directory of the first file is that of the rest
        intro hok top' htop'
        obtain rfl : top = top' := enter_unique htop htop'
        rw [hrest.contents hok top htop', List.map_cons, Delivery.applyAll_cons, ← hcontents]
      · intro q hq
        have hq' : AwayFrom base (rest.map (·.delivery)) _ q :=
          fun top htop dl hdl => hq top htop dl (List.mem_cons_of_mem _ hdl)
        exact (hrest.others q hq').trans (heffect.of_away hrest.keeps hq)

end SpringScaffold
