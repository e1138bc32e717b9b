import SpringScaffold.Command.Run
import SpringScaffold.Proofs.Delivery

/-! Generating leaves the files outside the output directory alone as long as no class name leads
upwards (`generate_outside`). Names of models stand in paths as they are, so one that leads upwards
takes its file out of the output directory (`generate_escapes`). -/

namespace SpringScaffold

open FileTree

/-! ### What a run starts from -/

namespace Request

section Run

variable (d : Desk)

theorem configLoad_run :
    (Config.load Config.fileName : StateM Desk _).run d =
      (if d.tree.exists? Config.fileName then
        match d.tree.read Config.fileName with
        | .error e => .error (.read Config.fileName e)
        | .ok text => match Config.ofYaml text with
          | .error fault => .error (.parse Config.fileName fault)
          | .ok c => .ok (some c)
      else .ok none, d) := by
  simp only [Config.load, Host.exists?, Host.read, bind, StateT.bind, StateT.run]
  cases d.tree.exists? Config.fileName with
  | false => rfl
  | true =>
    rw [if_pos rfl, if_pos rfl]
    dsimp only [StateT.bind]
    cases d.tree.read Config.fileName with
    | error e => rfl
    | ok text =>
      dsimp only [bind]
      cases Config.ofYaml text <;> rfl

theorem specLoad_run (path : String) :
    (Spec.load path : StateM Desk _).run d =
      (match d.tree.read path with
        | .error e => .error (.read path e)
        | .ok text => Spec.ofText path text, d) := by
  simp only [Spec.load, Host.read, bind, StateT.bind, StateT.run]
  cases d.tree.read path <;> rfl

/-- Reading the settings leaves the desk alone. -/
theorem projectConfig_desk :
    ((projectConfig : Attempt (StateM Desk) Config).run.run d).2 = d := by
  rw [projectConfig, run_bind, lift_run]
  cases hload : ((Config.load Config.fileName : StateM Desk _).run d).1 <;>
    exact congrArg Prod.snd (configLoad_run d)

/-- Reading a description leaves the desk alone. -/
theorem loadSpec_desk (path : String) (c : Config) :
    ((loadSpec path c : Attempt (StateM Desk) Spec).run.run d).2 = d := by
  rw [loadSpec, run_bind, lift_run]
  cases hload : ((Spec.load path : StateM Desk _).run d).1 <;>
    exact congrArg Prod.snd (specLoad_run d path)

theorem note_run (line : String) :
    (note line : Attempt (StateM Desk) Unit).run.run d =
      (.ok (), { d with notes := d.notes ++ [line] }) := rfl

/-- The settings that a run of generating goes by. -/
def settings (dto : Bool) : Except Failure Config :=
  ((projectConfig : Attempt (StateM Desk) Config).run.run d).1.map fun given =>
    { given with options := { given.options with dto := dto || given.options.dto } }

/-- The description that it renders. -/
def processed (input : Option String) (c : Config) : Except Failure Spec :=
  ((loadSpec (input.getD c.input) c : Attempt (StateM Desk) Spec).run.run d).1

theorem runGenerate_run (input output : Option String) (dto : Bool) :
    (runGenerate input output dto : Attempt (StateM Desk) Unit).run.run d =
      match settings d dto with
      | .error e => (.error e, d)
      | .ok c =>
        match processed d input c with
        | .error e => (.error e, d)
        | .ok s =>
          let base := output.getD c.output
          let noted := d.notes ++ ["Generating " ++ input.getD c.input ++ " → " ++ base]
          match d.tree.createDirectories base with
          | (.error e, made) =>
            (.error ⟨"failed to create output directory " ++ base, [e.message]⟩, ⟨made, noted⟩)
          | (.ok (), made) =>
            match (writeFiles base (s.generate c) : Attempt (StateM Desk) Unit).run.run
              ⟨made, noted⟩ with
            | (.error e, d') => (.error e, d')
            | (.ok (), d') =>
              (.ok (), { d' with notes := d'.notes ++ ["Generated " ++
                toString (s.generate c).length ++ " files in " ++ base] }) := by
  rw [runGenerate, run_bind, settings]
  have hconfig := projectConfig_desk d
  generalize (projectConfig : Attempt (StateM Desk) Config).run.run d = out at hconfig ⊢
  obtain ⟨given, d'⟩ := out
  obtain rfl : d' = d := hconfig
  cases given with
  | error e => rfl
  | ok given =>
  dsimp only [Except.map]
  have hspec := loadSpec_desk d' (input.getD given.input)
    { given with options := { given.options with dto := dto || given.options.dto } }
  rw [run_bind, processed]
  dsimp only
  generalize (loadSpec (input.getD given.input) _ : Attempt (StateM Desk) Spec).run.run d' = out
    at hspec ⊢
  obtain ⟨s, d''⟩ := out
  obtain rfl : d'' = d' := hspec
  cases s with
  | error e => rfl
  | ok s =>
  dsimp only
  rw [run_bind, note_run]
  dsimp only
  rw [run_bind, attempt_run, createDirectories_run]
  cases d''.tree.createDirectories (output.getD given.output) with
  | mk result made =>
  cases result with
  | error e => rfl
  | ok u =>
  dsimp only
  rw [run_bind]
  cases (writeFiles (output.getD given.output) _ : Attempt (StateM Desk) Unit).run.run _ with
  | mk result d' => cases result <;> rfl

end Run

end Request

/-! ### Inside the output directory -/

/-- The place is neither the output directory nor below it. -/
def Outside (base : String) (t : FileTree) (q : List String) : Prop :=
  ∀ top, t.enter [] (Path.steps base) = .ok top → ¬ top <+: q

theorem Outside.awayFrom {base : String} {t : FileTree} {q : List String} (h : Outside base t q)
    (deliveries : List Delivery) : AwayFrom base deliveries t q := by
  intro top htop dl _
  have hne : ∀ way, q ≠ top ++ way := fun way he => h top htop (he ▸ List.prefix_append top way)
  exact ⟨hne dl.first, hne dl.last⟩

theorem packagePlace_ne_nil (package : String) : packagePlace package ≠ [] := by
  have hsource : Path.steps sourceRoot ≠ [] := by decide
  rw [packagePlace, packageDirectory, Path.steps_append_slash]
  exact List.append_ne_nil_of_left_ne_nil hsource _

theorem Spec.leadsDown_generate {s : Spec} (c : Config)
    (hnames : ∀ m ∈ s.models, ".." ∉ Path.steps (m.className ++ ".java")) :
    ∀ f ∈ s.generate c, f.LeadsDown := by
  intro f hf
  rcases List.mem_append.1 hf with hf | hf
  · obtain ⟨g, -, hf⟩ := List.mem_flatMap.1 hf
    exact (s.groupFiles_delivery c g).1 f hf
  · obtain ⟨m, hm, rfl⟩ := List.mem_map.1 hf
    have hsteps : Path.steps (Spec.modelFile c m).path =
        packagePlace c.modelPackage ++ Path.steps (m.className ++ ".java") := by
      rw [modelFile, String.append_assoc, Path.steps_append_slash, packagePlace]
    refine ⟨?_, ?_⟩
    · rw [hsteps]
      exact List.append_ne_nil_of_left_ne_nil (packagePlace_ne_nil _) _
    · rw [hsteps, List.mem_append]
      exact not_or.2 ⟨up_notMem_packagePlace _, hnames m hm⟩

/-- Whatever is generated stays in the output directory if no class name leads upwards. -/
theorem Request.generate_outside (input output : Option String) (dto : Bool) (d : Desk)
    (hnames : ∀ c s, settings d dto = .ok c → processed d input c = .ok s →
      ∀ m ∈ s.models, ".." ∉ Path.steps (m.className ++ ".java"))
    (ht : d.tree.isDirectory = true) :
    let out := (Request.run (.generate input output dto) :
      Attempt (StateM Desk) String).run.run d
    KeepsDirectories d.tree out.2.tree ∧
      ∀ q, (∀ c, settings d dto = .ok c → Outside (output.getD c.output) out.2.tree q) →
        out.2.tree.file? q = d.tree.file? q := by
  intro out
  have hrun :
      out.2 = ((runGenerate input output dto : Attempt (StateM Desk) Unit).run.run d).2 := by
    dsimp only [out]
    rw [Request.run, run_bind]
    cases (runGenerate input output dto : Attempt (StateM Desk) Unit).run.run d with
    | mk result d' => cases result <;> rfl
  rw [hrun, runGenerate_run]
  cases hsettings : settings d dto with
  | error e => exact ⟨.refl _, fun _ _ => rfl⟩
  | ok c =>
  dsimp only
  cases hs : processed d input c with
  | error e => exact ⟨.refl _, fun _ _ => rfl⟩
  | ok s =>
  dsimp only
  have hgrown := createDirectories_grown d.tree (output.getD c.output)
  cases hmade : d.tree.createDirectories (output.getD c.output) with
  | mk result made =>
  rw [hmade] at hgrown
  cases result with
  | error e => exact ⟨hgrown.keepsDirectories, fun q _ => congrFun hgrown.file?_eq q⟩
  | ok u =>
  dsimp only
  generalize d.notes ++ _ = noted
  have heffect := writeFiles_effect (output.getD c.output)
    (Spec.leadsDown_generate c (hnames c s hsettings hs)) (d := ⟨made, noted⟩)
    (hgrown.keepsDirectories.isDirectory ht)
  generalize (writeFiles (output.getD c.output) (s.generate c) :
    Attempt (StateM Desk) Unit).run.run ⟨made, noted⟩ = written at heffect ⊢
  have hothers : ∀ q, Outside (output.getD c.output) written.2.tree q →
      written.2.tree.file? q = d.tree.file? q := fun q hq =>
    (heffect.others q (hq.awayFrom _)).trans (congrFun hgrown.file?_eq q)
  have hkeeps := hgrown.keepsDirectories.trans heffect.keeps
  obtain ⟨result, d'⟩ := written
  cases result with
  | error e => exact ⟨hkeeps, fun q hq => hothers q (hq c rfl)⟩
  | ok u => exact ⟨hkeeps, fun q hq => hothers q (hq c rfl)⟩

/-- A project with a source file next to the description of one model. -/
def shopDesk (model : String) : Desk where
  tree := .directory [
    (".scg.yaml", .file "model_package: m".toUTF8),
    ("Main.java", .file "class Main { }".toUTF8),
    ("ir.json", .file ("\x7b\"info\":\x7b\"title\":\"Shop\",\"version\":\"1.0\"\x7d,\"models\":" ++
      "[\x7b\"name\":\"" ++ model ++ "\"\x7d]\x7d").toUTF8),
    ("out", .directory [("src", .directory [("main", .directory [("java",
      .directory [("m", .directory [])])])])])]
  notes := []

/-- The settings of that project. -/
def shopConfig : Config := { Config.default with modelPackage := "m" }

theorem generate_order_outside :
    let d := shopDesk "Order"
    let out := (Request.run (.generate (some "ir.json") (some "out") false) :
      Attempt (StateM Desk) String).run.run d
    (∀ c s, Request.settings d false = .ok c → Request.processed d (some "ir.json") c = .ok s →
      ∀ m ∈ s.models, ".." ∉ Path.steps (m.className ++ ".java")) ∧ d.tree.isDirectory = true ∧
    (out.2.tree.file? ["out", "src", "main", "java", "m", "Order.java"]).isSome = true ∧
    ∀ q, Outside "out" out.2.tree q → out.2.tree.file? q = d.tree.file? q := by
  have hsettings : Request.settings (shopDesk "Order") false = .ok shopConfig := by decide +kernel
  have hall : ((Request.processed (shopDesk "Order") (some "ir.json") shopConfig).toOption.all
      fun s => s.models.all fun m =>
        decide (".." ∉ Path.steps (m.className ++ ".java"))) = true := by
    decide +kernel
  have hnames : ∀ c s, Request.settings (shopDesk "Order") false = .ok c →
      Request.processed (shopDesk "Order") (some "ir.json") c = .ok s →
      ∀ m ∈ s.models, ".." ∉ Path.steps (m.className ++ ".java") := by
    intro c s hc hs m hm
    obtain rfl : shopConfig = c := Except.ok.inj (hsettings.symm.trans hc)
    rw [hs] at hall
    exact of_decide_eq_true (List.all_eq_true.1 hall m hm)
  have hrun := Request.generate_outside (some "ir.json") (some "out") false _ hnames rfl
  exact ⟨hnames, rfl, by decide +kernel, fun q hq => hrun.2 q fun c _ => hq⟩

/-- A model whose name leads upwards is written over a file next to the output directory. -/
theorem generate_escapes :
    ¬ ∀ (input output : Option String) (dto : Bool) (d : Desk), d.tree.isDirectory = true →
      let out := (Request.run (.generate input output dto) :
        Attempt (StateM Desk) String).run.run d
      ∀ q, (∀ c, Request.settings d dto = .ok c →
        Outside (output.getD c.output) out.2.tree q) → out.2.tree.file? q = d.tree.file? q := by
  intro h
  have hfile := h (some "ir.json") (some "out") false (shopDesk "../../../../../Main") rfl
    ["Main.java"]
  have hout : ((Request.run (.generate (some "ir.json") (some "out") false) :
      Attempt (StateM Desk) String).run.run (shopDesk "../../../../../Main")).2.tree.enter []
        (Path.steps "out") = .ok ["out"] := by decide +kernel
  have hchanged : ((Request.run (.generate (some "ir.json") (some "out") false) :
      Attempt (StateM Desk) String).run.run
        (shopDesk "../../../../../Main")).2.tree.file? ["Main.java"] ≠
      (shopDesk "../../../../../Main").tree.file? ["Main.java"] := by decide +kernel
  refine hchanged (hfile fun c _ top htop => ?_)
  obtain rfl : ["out"] = top := Except.ok.inj (hout.symm.trans htop)
  decide

end SpringScaffold
