import SpringScaffold.Proofs.Casing
import SpringScaffold.Proofs.Delegation
import SpringScaffold.Proofs.Writing

/-! Every rendered file is delivered: after a run that gets through it stands at its final place,
where no other file of the run has been, and all other files are as they were
(`Spec.postProcess_delivered`). -/

namespace SpringScaffold

/-! ### Deliveries one after the other -/

namespace Delivery

variable {top : List String} {deliveries : List Delivery} {files : List String → Option ByteArray}

/-- No delivery touches where one before it ended up. -/
def Disjoint (deliveries : List Delivery) : Prop :=
  deliveries.Pairwise fun a b => a.last ≠ b.first ∧ a.last ≠ b.last

theorem applyAll_of_away {q : List String}
    (h : ∀ dl ∈ deliveries, q ≠ top ++ dl.first ∧ q ≠ top ++ dl.last) :
    applyAll top deliveries files q = files q := by
  induction deliveries generalizing files with
  | nil => rfl
  | cons dl rest ih =>
    obtain ⟨hfirst, hlast⟩ := h dl List.mem_cons_self
    exact (ih fun e he => h e (List.mem_cons_of_mem _ he)).trans (apply_of_ne hfirst hlast)

theorem applyAll_last (hdisjoint : Disjoint deliveries) {dl : Delivery} (h : dl ∈ deliveries) :
    applyAll top deliveries files (top ++ dl.last) = some dl.content.toUTF8 := by
  induction deliveries generalizing files with
  | nil => cases h
  | cons e rest ih =>
    obtain ⟨hhead, hrest⟩ := List.pairwise_cons.1 hdisjoint
    rcases List.mem_cons.1 h with rfl | h
    · have haway : ∀ f ∈ rest, top ++ dl.last ≠ top ++ f.first ∧ top ++ dl.last ≠ top ++ f.last :=
        fun f hf => ⟨by simpa using (hhead f hf).1, by simpa using (hhead f hf).2⟩
      exact (applyAll_of_away haway).trans apply_last
    · exact ih hrest h

theorem applyAll_eq_none {q : List String} (hq : files q = none)
    (h : ∀ dl ∈ deliveries, q ≠ top ++ dl.last) : applyAll top deliveries files q = none := by
  induction deliveries generalizing files with
  | nil => exact hq
  | cons dl rest ih =>
    refine ih ?_ fun e he => h e (List.mem_cons_of_mem _ he)
    exact apply_eq_none (.inr hq) (h dl List.mem_cons_self)

theorem applyAll_first {dl : Delivery} (h : dl ∈ deliveries)
    (hlast : ∀ e ∈ deliveries, e.last ≠ dl.first) :
    applyAll top deliveries files (top ++ dl.first) = none := by
  have hne : ∀ e ∈ deliveries, top ++ dl.first ≠ top ++ e.last :=
    fun e he heq => hlast e he (List.append_cancel_left heq).symm
  clear hlast
  induction deliveries generalizing files with
  | nil => cases h
  | cons e rest ih =>
    have hrest : ∀ f ∈ rest, top ++ dl.first ≠ top ++ f.last :=
      fun f hf => hne f (List.mem_cons_of_mem _ hf)
    rcases List.mem_cons.1 h with rfl | h
    · rw [applyAll_cons]
      exact applyAll_eq_none (apply_eq_none (.inl rfl) (hne dl List.mem_cons_self)) hrest
    · rw [applyAll_cons]
      exact ih h hrest

end Delivery

/-! ### The places of rendered files -/

/-- The names that lead to a package below the output directory. -/
def packagePlace (package : String) : List String := Path.steps (packageDirectory package)

namespace Spec

def groupDeliveries (s : Spec) (c : Config) (g : Group) : List Delivery :=
  let api := packagePlace c.apiPackage
  let controller := g.name.pascal ++ "Controller.java"
  let service := g.name.pascal ++ "Service.java"
  [⟨api ++ [controller], api ++ ["controller", controller], (s.controller c g).render⟩,
    ⟨api ++ [service], api ++ ["service", service], (s.service c g).render⟩]

def modelDelivery (c : Config) (m : Model) : Delivery :=
  let place := packagePlace c.modelPackage ++ [m.className ++ ".java"]
  ⟨place, place, m.render c⟩

/-- Where the rendered files are written and where they end up. -/
def deliveries (s : Spec) (c : Config) : List Delivery :=
  s.groups.flatMap (s.groupDeliveries c) ++ s.models.map (modelDelivery c)

end Spec

/-- The name of a source file. -/
def IsSourceName (n : String) : Prop := '/' ∉ n.toList ∧ n.toList.getLast? = some 'a'

theorem IsSourceName.append {x : String} (hx : '/' ∉ x.toList) {ending : String}
    (h : IsSourceName ending) : IsSourceName (x ++ ending) := by
  constructor
  · rw [String.toList_append, List.mem_append]
    exact not_or.2 ⟨hx, h.1⟩
  · rw [String.toList_append, List.getLast?_append, h.2]
    rfl

theorem IsSourceName.isName {n : String} (h : IsSourceName n) :
    Path.steps n = [n] ∧ Path.IsName n := by
  have hne : ∀ m : String, m.toList.getLast? ≠ some 'a' → n ≠ m := fun m hm he => hm (he ▸ h.2)
  have hname : Path.IsName n := ⟨hne _ (by decide), hne _ (by decide), hne _ (by decide)⟩
  refine ⟨Path.steps_of_notMem h.1 ?_, hname⟩
  rw [Bool.eq_false_iff, Ne, Path.isIdle_iff, String.ofList_toList]
  exact not_or.2 ⟨hname.1, hname.2.1⟩

theorem dot_notMem_packageDirectory (package : String) :
    '.' ∉ (packageDirectory package).toList := by
  have hsource : '.' ∉ sourceRoot.toList ∧ '.' ∉ "/".toList := by decide
  simp only [packageDirectory, String.toList_append, String.toList_ofList, List.mem_append,
    not_or, hsource, true_and, not_false_eq_true, List.mem_map, not_exists, not_and]
  intro c _
  split
  · decide
  · next h => exact h

theorem dot_notMem_packagePlace {package d : String} (h : d ∈ packagePlace package) :
    '.' ∉ d.toList := by
  intro hdot
  obtain ⟨cs, hcs, rfl⟩ := List.mem_map.1 h
  rw [String.toList_ofList] at hdot
  have hpiece := (List.mem_filter.1 hcs).1
  exact dot_notMem_packageDirectory package (Text.mem_of_mem_splitOn hpiece hdot)

theorem up_notMem_packagePlace (package : String) : ".." ∉ packagePlace package :=
  fun h => dot_notMem_packagePlace h (by decide)

theorem steps_packageFile (package : String) {n : String} (hn : IsSourceName n) :
    Path.steps (packageDirectory package ++ "/" ++ n) = packagePlace package ++ [n] := by
  rw [Path.steps_append_slash, hn.isName.1]
  rfl

/-- Where a file of a package is written and where it ends up. -/
theorem delivery_packageFile (package : String) {n : String} (hn : IsSourceName n) (role : Role)
    (content : String) {sub? : Option String}
    (hsub : role.subdirectory (packageDirectory package ++ "/" ++ n) = sub?) :
    GeneratedFile.LeadsDown ⟨packageDirectory package ++ "/" ++ n, role, content⟩ ∧
      GeneratedFile.delivery ⟨packageDirectory package ++ "/" ++ n, role, content⟩ =
        ⟨packagePlace package ++ [n], packagePlace package ++ (sub?.toList ++ [n]), content⟩ := by
  have hsteps := steps_packageFile package hn
  refine ⟨⟨by simp [hsteps], ?_⟩, ?_⟩
  · rw [hsteps, List.mem_append, List.mem_singleton]
    exact not_or.2 ⟨up_notMem_packagePlace package, hn.isName.2.2.2.symm⟩
  · rw [GeneratedFile.delivery, hsub]
    cases sub? <;> simp [hsteps]

namespace Spec

theorem groupFiles_delivery (s : Spec) (c : Config) (g : Group) :
    (∀ f ∈ s.groupFiles c g, f.LeadsDown) ∧
      (s.groupFiles c g).map (·.delivery) = s.groupDeliveries c g := by
  have hname : IsSourceName (g.name.pascal ++ "Controller.java") :=
    .append (g.name.notMem_pascal Text.isSign_slash) ⟨by decide, by decide⟩
  have hname' : IsSourceName (g.name.pascal ++ "Service.java") :=
    .append (g.name.notMem_pascal Text.isSign_slash) ⟨by decide, by decide⟩
  obtain ⟨hdown, hcontroller⟩ :=
    delivery_packageFile c.apiPackage hname .controller (s.controller c g).render rfl
  obtain ⟨hdown', hservice⟩ :=
    delivery_packageFile c.apiPackage hname' .service (s.service c g).render rfl
  rw [← String.append_assoc] at hdown hdown' hcontroller hservice
  refine ⟨?_, ?_⟩
  · simp only [groupFiles, List.forall_mem_cons]
    exact ⟨hdown, hdown', by simp⟩
  · simp only [groupFiles, List.map_cons, List.map_nil, hcontroller, hservice]
    rfl

theorem modelFile_delivery (c : Config) {m : Model} (hm : '/' ∉ m.className.toList) :
    (modelFile c m).LeadsDown ∧ (modelFile c m).delivery = modelDelivery c m := by
  have hname : IsSourceName (m.className ++ ".java") := .append hm ⟨by decide, by decide⟩
  have h := delivery_packageFile c.modelPackage hname .model (m.render c) rfl
  rw [← String.append_assoc] at h
  exact h

theorem generate_deliveries {s : Spec} {c : Config}
    (hmodels : ∀ m ∈ s.models, '/' ∉ m.className.toList) :
    (∀ f ∈ s.generate c, f.LeadsDown) ∧ (s.generate c).map (·.delivery) = s.deliveries c := by
  constructor
  · intro f hf
    rcases List.mem_append.1 hf with hf | hf
    · obtain ⟨g, -, hf⟩ := List.mem_flatMap.1 hf
      exact (s.groupFiles_delivery c g).1 f hf
    · obtain ⟨m, hm, rfl⟩ := List.mem_map.1 hf
      exact (modelFile_delivery c (hmodels m hm)).1
  · have hmodel : s.models.map ((·.delivery) ∘ modelFile c) = s.models.map (modelDelivery c) :=
      List.map_congr_left fun m hm => (modelFile_delivery c (hmodels m hm)).2
    rw [generate, deliveries, List.map_append, List.map_flatMap, List.map_map, hmodel]
    simp only [groupFiles_delivery]

theorem groupDeliveries_disjoint (s : Spec) (c : Config) {g h : Group}
    (hgh : g.name.pascal ≠ h.name.pascal) :
    ∀ a ∈ s.groupDeliveries c g, ∀ b ∈ s.groupDeliveries c h,
      a.last ≠ b.first ∧ a.last ≠ b.last := by
  have hne : ∀ ending : String, g.name.pascal ++ ending ≠ h.name.pascal ++ ending :=
    fun ending he => hgh ((String.append_left_inj ending).1 he)
  simp [groupDeliveries, hne]

theorem deliveries_disjoint {s : Spec} {c : Config}
    (hgroups : (s.groups.map (·.name.pascal)).Nodup)
    (hclasses : (s.models.map (·.className)).Nodup)
    (hcontroller : packagePlace c.modelPackage ≠ packagePlace c.apiPackage ++ ["controller"])
    (hservice : packagePlace c.modelPackage ≠ packagePlace c.apiPackage ++ ["service"]) :
    Delivery.Disjoint (s.deliveries c) := by
  refine List.pairwise_append.2 ⟨List.pairwise_flatMap.2 ⟨?_, ?_⟩, List.pairwise_map.2 ?_, ?_⟩
  · -- the two files of one group go into different directories
    intro g _
    simp [groupDeliveries]
  · exact (List.pairwise_map.1 hgroups).imp (s.groupDeliveries_disjoint c)
  · refine (List.pairwise_map.1 hclasses).imp ?_
    intro m n hmn
    have hne : m.className ++ ".java" ≠ n.className ++ ".java" :=
      fun he => hmn ((String.append_left_inj ".java").1 he)
    simp [modelDelivery, hne]
  · -- models come after groups, so they may only not meet them where these end up
    intro a ha b hb
    obtain ⟨g, -, ha⟩ := List.mem_flatMap.1 ha
    obtain ⟨m, -, rfl⟩ := List.mem_map.1 hb
    have hne : ∀ sub n, packagePlace c.modelPackage ≠ packagePlace c.apiPackage ++ [sub] →
        packagePlace c.apiPackage ++ [sub, n] ≠
          packagePlace c.modelPackage ++ [m.className ++ ".java"] := by
      intro sub n hsub he
      rw [List.append_cons] at he
      exact hsub (List.append_inj' he rfl).1.symm
    rcases List.mem_pair.1 ha with rfl | rfl
    · exact ⟨hne _ _ hcontroller, hne _ _ hcontroller⟩
    · exact ⟨hne _ _ hservice, hne _ _ hservice⟩

end Spec

/-- A run that delivered everything below an output directory. -/
structure Delivered (base : String) (deliveries : List Delivery) (before after : FileTree) :
    Prop where
  disjoint : Delivery.Disjoint deliveries
  based : deliveries ≠ [] → ∃ top, after.enter [] (Path.steps base) = .ok top
  placed : ∀ top, after.enter [] (Path.steps base) = .ok top → ∀ dl ∈ deliveries,
    after.file? (top ++ dl.last) = some dl.content.toUTF8
  /-- Where a file was written first there is none, unless another one belongs there. -/
  cleared : ∀ top, after.enter [] (Path.steps base) = .ok top → ∀ dl ∈ deliveries,
    (∀ e ∈ deliveries, e.last ≠ dl.first) → after.file? (top ++ dl.first) = none
  others : ∀ q, AwayFrom base deliveries after q → after.file? q = before.file? q

theorem WritesEffect.delivered {base : String} {files : List GeneratedFile}
    {before after : FileTree} (h : WritesEffect base files before (.ok ()) after)
    (hdisjoint : Delivery.Disjoint (files.map (·.delivery))) :
    Delivered base (files.map (·.delivery)) before after where
  disjoint := hdisjoint
  based hne := h.based rfl (by simpa using hne)
  placed top htop dl hdl := by
    rw [h.contents rfl top htop]
    exact Delivery.applyAll_last hdisjoint hdl
  cleared top htop dl hdl hlast := by
    rw [h.contents rfl top htop]
    exact Delivery.applyAll_first hdl hlast
  others := h.others

namespace Spec

/-- What is rendered from a processed description is delivered if the run gets through, and other
files are left alone even if it does not. -/
theorem postProcess_delivered (o : Options) (mode : GroupBy) (s : Spec) (c : Config) (base : String)
    (d : Desk) (hclasses : ((s.postProcess o mode).models.map (·.className)).Nodup)
    (hslash : ∀ m ∈ (s.postProcess o mode).models, '/' ∉ m.className.toList)
    (hcontroller : packagePlace c.modelPackage ≠ packagePlace c.apiPackage ++ ["controller"])
    (hservice : packagePlace c.modelPackage ≠ packagePlace c.apiPackage ++ ["service"])
    (ht : d.tree.isDirectory = true) :
    let files := (s.postProcess o mode).generate c
    let deliveries := (s.postProcess o mode).deliveries c
    let out := (writeFiles base files : Attempt (StateM Desk) Unit).run.run d
    files.map (·.delivery) = deliveries ∧
      (out.1 = .ok () → Delivered base deliveries d.tree out.2.tree) ∧
      ∀ q, AwayFrom base deliveries out.2.tree q → out.2.tree.file? q = d.tree.file? q := by
  intro files deliveries out
  obtain ⟨hdown, hdeliveries⟩ := generate_deliveries (c := c) hslash
  have heffect : WritesEffect base files d.tree out.1 out.2.tree :=
    writeFiles_effect base hdown ht
  have hdisjoint : Delivery.Disjoint deliveries :=
    deliveries_disjoint (s.postProcess_isPartition o mode).distinct hclasses hcontroller hservice
  refine ⟨hdeliveries, ?_, ?_⟩
  · intro hok
    rw [hok] at heffect
    have hdelivered := heffect.delivered (hdeliveries ▸ hdisjoint)
    rwa [hdeliveries] at hdelivered
  · have hothers := heffect.others
    rwa [hdeliveries] at hothers

/-- The list of orders with the model of an order alone. -/
def orderPage : Spec := { orderList with models := orderList.models.take 1 }

/-- A package for everything. -/
def orderConfig : Config := { Config.default with apiPackage := "shop", modelPackage := "shop" }

theorem orderPage_delivered :
    let s := orderPage.postProcess .default .tag
    let out := (writeFiles "" (s.generate orderConfig) : Attempt (StateM Desk) Unit).run.run
      ⟨.empty, []⟩
    (((s.models.map (·.className)).Nodup ∧ ∀ m ∈ s.models, '/' ∉ m.className.toList) ∧
      packagePlace orderConfig.modelPackage ≠
        packagePlace orderConfig.apiPackage ++ ["controller"] ∧
      packagePlace orderConfig.modelPackage ≠ packagePlace orderConfig.apiPackage ++ ["service"]) ∧
    out.1 = .ok () ∧ Delivered "" (s.deliveries orderConfig) .empty out.2.tree := by
  have hclasses : ((orderPage.postProcess .default .tag).models.map (·.className)).Nodup := by
    decide +kernel
  have hslash : ∀ m ∈ (orderPage.postProcess .default .tag).models, '/' ∉ m.className.toList := by
    decide +kernel
  have hcontroller : packagePlace orderConfig.modelPackage ≠
      packagePlace orderConfig.apiPackage ++ ["controller"] := by decide +kernel
  have hservice : packagePlace orderConfig.modelPackage ≠
      packagePlace orderConfig.apiPackage ++ ["service"] := by decide +kernel
  have hok : ((writeFiles "" ((orderPage.postProcess .default .tag).generate orderConfig) :
      Attempt (StateM Desk) Unit).run.run ⟨.empty, []⟩).1 = .ok () := by decide +kernel
  have hrun := postProcess_delivered .default .tag orderPage orderConfig "" ⟨.empty, []⟩ hclasses
    hslash hcontroller hservice rfl
  exact ⟨⟨⟨hclasses, hslash⟩, hcontroller, hservice⟩, hok, hrun.2.1 hok⟩

end Spec

end SpringScaffold
