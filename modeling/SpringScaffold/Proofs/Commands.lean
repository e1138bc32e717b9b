import SpringScaffold.Proofs.Confinement
import SpringScaffold.Proofs.Fitting

/-! Which commands leave the file tree alone. Whatever is loaded is loaded before anything is
written, so inspecting changes nothing, and neither does generating from settings or a description
that do not load. Initialising changes one place at most, and nothing where that is taken, unless it
is forced (`runCommand_keeps`). -/

namespace SpringScaffold

open FileTree

namespace FileTree

/-- A file that is put where no directory is changes nothing at any other place. -/
theorem node?_set_file_of_ne {t : FileTree} {p : List String} {n : String} {q : List String}
    (h : t.node? (p ++ [n]) ≠ some .directory) (hq : q ≠ p ++ [n]) (content : ByteArray) :
    (t.set (some (.file content)) (p ++ [n])).node? q = t.node? q := by
  by_cases hbelow : p ++ [n] <+: q
  · -- below a file there is nothing, neither before nor after
    have hnew : (t.set (some (.file content)) (p ++ [n])).node? (p ++ [n]) ≠ some .directory := by
      intro hd
      have hparent : (t.set (some (.file content)) (p ++ [n])).node? p = some .directory :=
        node?_eq_directory_of_append (n := n) (q := []) (by simp [hd])
      rw [node?_set_of_not_below _ _ fun hp => absurd hp.length_le (by simp)] at hparent
      rw [node?, get?_set hparent] at hd
      cases hd
    rw [node?_eq_none_of_below hnew hbelow hq, node?_eq_none_of_below h hbelow hq]
  · exact node?_set_of_not_below t _ hbelow

/-- The settings in force: those in the file of settings, or the usual ones where there is none. -/
inductive HasConfig (t : FileTree) : Config → Prop where
  | usual (habsent : t.exists? Config.fileName = false) : t.HasConfig .default
  | given {text : String} {c : Config} (hread : t.read Config.fileName = .ok text)
      (hparse : Config.ofYaml text = .ok c) : t.HasConfig c

/-- The file at the path can be read as a description. -/
def HasSpec (t : FileTree) (path : String) (s : Spec) : Prop :=
  ∃ text, t.read path = .ok text ∧ Spec.ofText path text = .ok s

/-- Something that generating starts from cannot be read or does not parse: the settings, or the
description in the file that the command line or else the settings name. -/
def FailsToLoad (t : FileTree) (input : Option String) : Prop :=
  (¬ ∃ c, t.HasConfig c) ∨ ∃ c, t.HasConfig c ∧ ¬ ∃ s, t.HasSpec (input.getD c.input) s

theorem locate_configFile (t : FileTree) :
    t.locate Config.fileName = .ok ⟨[], some Config.fileName, false⟩ :=
  locate_eq_ok.2 ⟨[], rfl, rfl⟩

theorem exists?_of_read {t : FileTree} {p text : String} (h : t.read p = .ok text) :
    t.exists? p = true := by
  obtain ⟨u, hu, -⟩ := bind_eq_ok.1 h
  rw [exists?, hu]
  rfl

theorem exists?_configFile (t : FileTree) :
    t.exists? Config.fileName = (t.node? [Config.fileName]).isSome := by
  rw [node?, Option.isSome_map]
  cases hget : t.get? [Config.fileName] with
  | none =>
    cases hopen : t.open? Config.fileName with
    | error e =>
      rw [exists?, hopen]
      rfl
    | ok u =>
      obtain ⟨place, hplace, hu⟩ := open?_eq_ok hopen
      obtain rfl := Except.ok.inj (t.locate_configFile.symm.trans hplace)
      cases hget.symm.trans hu
  | some u =>
    rw [exists?, open?_of_locate t.locate_configFile hget fun _ => rfl]
    rfl

theorem HasConfig.unique {t : FileTree} {c c' : Config} (h : t.HasConfig c) (h' : t.HasConfig c') :
    c = c' := by
  cases h with
  | usual habsent =>
    cases h' with
    | usual => rfl
    | given hread => simp [exists?_of_read hread] at habsent
  | given hread hparse =>
    cases h' with
    | usual habsent => simp [exists?_of_read hread] at habsent
    | given hread' hparse' =>
      obtain rfl := Except.ok.inj (hread.symm.trans hread')
      exact Except.ok.inj (hparse.symm.trans hparse')

end FileTree

namespace Request

theorem projectConfig_eq_ok {d : Desk} {c : Config} :
    ((projectConfig : Attempt (StateM Desk) Config).run.run d).1 = .ok c ↔ d.tree.HasConfig c := by
  rw [projectConfig, run_bind, lift_run, configLoad_run]
  constructor
  · intro h
    cases hexists : d.tree.exists? Config.fileName with
    | false =>
      rw [hexists] at h
      obtain rfl := Except.ok.inj h
      exact .usual hexists
    | true =>
      rw [hexists, if_pos rfl] at h
      cases hread : d.tree.read Config.fileName with
      | error e =>
        rw [hread] at h
        cases h
      | ok text =>
        rw [hread] at h
        dsimp only at h
        cases hparse : Config.ofYaml text with
        | error fault =>
          rw [hparse] at h
          cases h
        | ok given =>
          rw [hparse] at h
          obtain rfl := Except.ok.inj h
          exact .given hread hparse
  · rintro (habsent | ⟨hread, hparse⟩)
    · rw [habsent]
      rfl
    · rw [exists?_of_read hread, if_pos rfl, hread]
      dsimp only
      rw [hparse]
      rfl

theorem settings_eq_ok {d : Desk} {dto : Bool} {c : Config} :
    settings d dto = .ok c ↔ ∃ given, d.tree.HasConfig given ∧
      c = { given with options := { given.options with dto := dto || given.options.dto } } := by
  rw [settings, Json.map_eq_ok]
  simp only [projectConfig_eq_ok]

theorem loadSpec_eq_ok {d : Desk} {path : String} {c : Config} {s : Spec} :
    ((loadSpec path c : Attempt (StateM Desk) Spec).run.run d).1 = .ok s ↔
      ∃ given, d.tree.HasSpec path given ∧ s = given.postProcess c.options c.groupBy := by
  rw [loadSpec, run_bind, lift_run, specLoad_run]
  constructor
  · intro h
    cases hread : d.tree.read path with
    | error e =>
      rw [hread] at h
      cases h
    | ok text =>
      rw [hread] at h
      dsimp only at h
      cases hparse : Spec.ofText path text with
      | error e =>
        rw [hparse] at h
        cases h
      | ok given =>
        rw [hparse] at h
        exact ⟨given, ⟨text, hread, hparse⟩, (Except.ok.inj h).symm⟩
  · rintro ⟨given, ⟨text, hread, hparse⟩, rfl⟩
    rw [hread]
    dsimp only
    rw [hparse]
    rfl

/-- What does not load is not generated from, and nothing has happened by then. -/
theorem runGenerate_of_failsToLoad {d : Desk} {input : Option String}
    (h : d.tree.FailsToLoad input) (output : Option String) (dto : Bool) :
    ∃ f, (runGenerate input output dto : Attempt (StateM Desk) Unit).run.run d = (.error f, d) := by
  rw [runGenerate_run]
  cases hsettings : settings d dto with
  | error e => exact ⟨e, rfl⟩
  | ok c =>
    dsimp only
    cases hspec : processed d input c with
    | error e => exact ⟨e, rfl⟩
    | ok s =>
      obtain ⟨given, hgiven, rfl⟩ := settings_eq_ok.1 hsettings
      obtain ⟨loaded, hloaded, -⟩ := loadSpec_eq_ok.1 hspec
      rcases h with hconfig | ⟨c, hc, hnone⟩
      · exact absurd ⟨given, hgiven⟩ hconfig
      · rw [hc.unique hgiven] at hnone
        exact absurd ⟨loaded, hloaded⟩ hnone

theorem runInspect_desk (d : Desk) (input : String) (format : Format) :
    ((runInspect input format : Attempt (StateM Desk) String).run.run d).2 = d := by
  have hconfig := projectConfig_desk d
  rw [runInspect, run_bind]
  generalize (projectConfig : Attempt (StateM Desk) Config).run.run d = out at hconfig ⊢
  obtain ⟨c, d'⟩ := out
  obtain rfl : d' = d := hconfig
  cases c with
  | error e => rfl
  | ok c =>
    have hspec := loadSpec_desk d' input c
    dsimp only
    rw [run_bind]
    generalize (loadSpec input c : Attempt (StateM Desk) Spec).run.run d' = out at hspec ⊢
    obtain ⟨s, d''⟩ := out
    obtain rfl : d'' = d' := hspec
    cases s <;> rfl

theorem runInitialise_run (d : Desk) (force : Bool) :
    (runInitialise force : Attempt (StateM Desk) Unit).run.run d =
      if (d.tree.node? [Config.fileName]).isSome && !force then
        (.error ⟨".scg.yaml already exists. Use --force to overwrite.", []⟩, d)
      else
        match d.tree.write Config.fileName Config.initialText with
        | .error e => (.error ⟨e.message, []⟩, d)
        | .ok t => (.ok (), ⟨t, d.notes ++ ["Created .scg.yaml"]⟩) := by
  have hexists : (Host.exists? Config.fileName : StateM Desk Bool).run d =
      ((d.tree.node? [Config.fileName]).isSome, d) :=
    congrArg (·, d) d.tree.exists?_configFile
  rw [runInitialise, run_bind, lift_run, hexists]
  dsimp only
  cases (d.tree.node? [Config.fileName]).isSome && !force with
  | true => rfl
  | false =>
    rw [if_neg Bool.false_ne_true, if_neg Bool.false_ne_true, run_bind, lift_run, write_run]
    cases d.tree.write Config.fileName Config.initialText <;> rfl

/-- Initialising changes no place but that of the settings. -/
theorem runInitialise_keeps (d : Desk) (force : Bool) {q : List String}
    (hq : q ≠ [Config.fileName]) :
    ((runInitialise force : Attempt (StateM Desk) Unit).run.run d).2.tree.node? q =
      d.tree.node? q := by
  rw [runInitialise_run]
  split
  · rfl
  · cases hwrite : d.tree.write Config.fileName Config.initialText with
    | error e => rfl
    | ok t =>
      obtain ⟨place, n, hplace, hn, -, hold, rfl⟩ := write_eq_ok hwrite
      obtain rfl := Except.ok.inj (d.tree.locate_configFile.symm.trans hplace)
      obtain rfl := Option.some.inj hn
      exact node?_set_file_of_ne (p := []) hold hq _

end Request

section Outcome

variable {args : List String} {d : Desk}

theorem runCommand_run {request : Request} (h : Request.ofArguments args = some request) :
    (runCommand args : StateM Desk Outcome).run d =
      match (request.run : Attempt (StateM Desk) String).run.run d with
      | (.ok output, d') => (.done output, d')
      | (.error f, d') => (.failed f, d') := by
  simp only [runCommand, h, bind, StateT.bind, StateT.run]
  cases (request.run : Attempt (StateM Desk) String).run d with
  | mk result d' => cases result <;> rfl

/-- The desk after a command is the one that the request leaves. -/
theorem runCommand_desk {request : Request} (h : Request.ofArguments args = some request) :
    ((runCommand args : StateM Desk Outcome).run d).2 =
      ((request.run : Attempt (StateM Desk) String).run.run d).2 := by
  rw [runCommand_run h]
  cases (request.run : Attempt (StateM Desk) String).run.run d with
  | mk result d' => cases result <;> rfl

theorem bind_pure_desk {α β : Type} (x : Attempt (StateM Desk) α) (b : β) :
    ((x >>= fun _ => pure b).run.run d).2 = (x.run.run d).2 := by
  rw [run_bind]
  cases x.run.run d with
  | mk result d' => cases result <;> rfl

theorem runCommand_inspect {input : String} {format : Format}
    (h : Request.ofArguments args = some (.inspect input format)) :
    ((runCommand args : StateM Desk Outcome).run d).2 = d :=
  (runCommand_desk h).trans (Request.runInspect_desk d input format)

theorem runCommand_generate {input output : Option String} {dto : Bool}
    (h : Request.ofArguments args = some (.generate input output dto))
    (hload : d.tree.FailsToLoad input) :
    ∃ f, (runCommand args : StateM Desk Outcome).run d = (.failed f, d) := by
  obtain ⟨f, hrun⟩ := Request.runGenerate_of_failsToLoad hload output dto
  refine ⟨f, ?_⟩
  rw [runCommand_run h, Request.run, run_bind, hrun]

theorem runCommand_initialise
    (h : Request.ofArguments args = some (.initialise false))
    (htaken : d.tree.node? [Config.fileName] ≠ none) :
    ∃ f, (runCommand args : StateM Desk Outcome).run d = (.failed f, d) := by
  have hsome : (d.tree.node? [Config.fileName]).isSome = true := Option.isSome_iff_ne_none.2 htaken
  rw [runCommand_run h, Request.run, run_bind, Request.runInitialise_run, hsome]
  exact ⟨_, rfl⟩

theorem runCommand_initialise_keeps {force : Bool}
    (h : Request.ofArguments args = some (.initialise force)) {q : List String}
    (hq : q ≠ [Config.fileName]) :
    ((runCommand args : StateM Desk Outcome).run d).2.tree.node? q = d.tree.node? q := by
  rw [runCommand_desk h, Request.run, bind_pure_desk]
  exact Request.runInitialise_keeps d force hq

end Outcome

/-- Inspecting changes nothing. Generating changes nothing if what it starts from does not load, and
initialising if it finds settings and is not forced, and both fail then. Initialising never changes
anything but the settings. -/
theorem runCommand_keeps (args : List String) (d : Desk) :
    let out := (runCommand args : StateM Desk Outcome).run d
    (∀ input format, Request.ofArguments args = some (.inspect input format) → out.2 = d) ∧
      (∀ input output dto, Request.ofArguments args = some (.generate input output dto) →
        d.tree.FailsToLoad input → (∃ f, out.1 = .failed f) ∧ out.2 = d) ∧
      (Request.ofArguments args = some (.initialise false) →
        d.tree.node? [".scg.yaml"] ≠ none → (∃ f, out.1 = .failed f) ∧ out.2 = d) ∧
      (∀ force, Request.ofArguments args = some (.initialise force) →
        ∀ q, q ≠ [".scg.yaml"] → out.2.tree.node? q = d.tree.node? q) := by
  refine ⟨fun input format h => runCommand_inspect h, ?_, ?_, ?_⟩
  · intro input output dto h hload
    obtain ⟨f, hrun⟩ := runCommand_generate h hload
    exact ⟨⟨f, congrArg Prod.fst hrun⟩, congrArg Prod.snd hrun⟩
  · intro h htaken
    obtain ⟨f, hrun⟩ := runCommand_initialise h htaken
    exact ⟨⟨f, congrArg Prod.fst hrun⟩, congrArg Prod.snd hrun⟩
  · intro force h q hq
    exact runCommand_initialise_keeps h hq

/-- A project whose settings are of the wrong type, next to an empty description. -/
def brokenDesk : Desk where
  tree := .directory [(".scg.yaml", .file "options: none".toUTF8), ("ir.yaml", .file .empty)]
  notes := []

theorem runCommand_brokenDesk :
    let run (args : List String) := (runCommand args : StateM Desk Outcome).run brokenDesk
    (Request.ofArguments ["inspect", "-i", "ir.yaml"] = some (.inspect "ir.yaml" .yaml) ∧
      (run ["inspect", "-i", "ir.yaml"]).2 = brokenDesk) ∧
    (Request.ofArguments ["generate"] = some (.generate none none false) ∧
      brokenDesk.tree.FailsToLoad none ∧
      (∃ f, (run ["generate"]).1 = .failed f) ∧ (run ["generate"]).2 = brokenDesk) ∧
    (Request.ofArguments ["init"] = some (.initialise false) ∧
      brokenDesk.tree.node? [".scg.yaml"] ≠ none ∧
      (∃ f, (run ["init"]).1 = .failed f) ∧ (run ["init"]).2 = brokenDesk) ∧
    Request.ofArguments ["init", "--force"] = some (.initialise true) ∧
      (run ["init", "--force"]).2.tree.node? ["ir.yaml"] = brokenDesk.tree.node? ["ir.yaml"] := by
  have hinspect : Request.ofArguments ["inspect", "-i", "ir.yaml"] =
      some (.inspect "ir.yaml" .yaml) := by decide +kernel
  have hgenerate : Request.ofArguments ["generate"] = some (.generate none none false) := by
    decide +kernel
  have hinit : Request.ofArguments ["init"] = some (.initialise false) := by decide +kernel
  have hforce : Request.ofArguments ["init", "--force"] = some (.initialise true) := by
    decide +kernel
  have hload : brokenDesk.tree.FailsToLoad none := by
    left
    rintro ⟨c, hc⟩
    have hfails : ((Request.projectConfig :
        Attempt (StateM Desk) Config).run.run brokenDesk).1.toOption = none := by decide +kernel
    rw [Request.projectConfig_eq_ok.2 hc] at hfails
    cases hfails
  have htaken : brokenDesk.tree.node? [".scg.yaml"] ≠ none := by simp [brokenDesk, node?]
  have hkeeps := fun args => runCommand_keeps args brokenDesk
  exact ⟨⟨hinspect, (hkeeps _).1 _ _ hinspect⟩,
    ⟨hgenerate, hload, (hkeeps _).2.1 _ _ _ hgenerate hload⟩,
    ⟨hinit, htaken, (hkeeps _).2.2.1 hinit htaken⟩,
    hforce, (hkeeps _).2.2.2 _ hforce _ (by decide)⟩

end SpringScaffold
