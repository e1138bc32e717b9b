import SpringScaffold.Proofs.Naming

/-! A run of stages, taken apart. A stage changes every operation and every model by itself, with
one renaming that no stage alters, and the groups come from what no stage touches. So a run of
stages (`Spec.runStages_eq`) is a fold over the same stages for each operation and each model, and
the order of the stages matters only as far as it matters there. -/

namespace SpringScaffold

namespace Stage

/-- What a stage does to one operation. -/
def onOperation (f : String → String) : Stage → Operation → Operation
  | .modelNames => Operation.mapTypes f
  | .operationImports => Operation.addImports
  | .operations => Operation.normalize
  | .modelProperties | .groups => id

/-- What a stage does to one model. -/
def onModel (o : Options) (f : String → String) : Stage → Model → Model
  | .modelNames => Model.named o.dto f
  | .modelProperties => Model.annotate o
  | .operationImports | .operations | .groups => id

theorem run_eq (o : Options) (mode : GroupBy) (stage : Stage) (s : Spec) :
    stage.run o mode s =
      { info := s.info
        operations := s.operations.map (stage.onOperation (s.retype o))
        models := s.models.map (stage.onModel o (s.retype o))
        groups := if stage = .groups then s.groupOperations mode else s.groups } := by
  cases stage with
  | modelNames =>
    rw [run, Spec.nameModels_eq]
    rfl
  | operationImports => simp [run, onOperation, onModel]
  | operations => simp [run, onOperation, onModel]
  | modelProperties => simp [run, onOperation, onModel]
  | groups => simp [run, onOperation, onModel]

theorem name_onModel (o : Options) (f : String → String) (stage : Stage) (m : Model) :
    (stage.onModel o f m).name = m.name := by
  cases stage <;> rfl

theorem tags_onOperation (f : String → String) (stage : Stage) (o : Operation) :
    (stage.onOperation f o).tags = o.tags := by
  cases stage <;> simp [onOperation]

theorem path_onOperation (f : String → String) (stage : Stage) (o : Operation) :
    (stage.onOperation f o).path = o.path := by
  cases stage <;> simp [onOperation]

end Stage

namespace Spec

theorem retype_congr {s t : Spec} (h : t.models.map (·.name) = s.models.map (·.name))
    (o : Options) : t.retype o = s.retype o := by
  have href : t.reference o.dto = s.reference o.dto := by
    funext id
    simp only [reference, h]
  rw [retype, retype, href]

/-- Groups depend on the tags and paths of the operations only. -/
theorem groupOperations_congr {s t : Spec} {h : Operation → Operation}
    (ht : t.operations = s.operations.map h) (htags : ∀ o, (h o).tags = o.tags)
    (hpath : ∀ o, (h o).path = o.path) (mode : GroupBy) :
    t.groupOperations mode = s.groupOperations mode := by
  have hkey : ∀ o : Operation, (h o).key mode = o.key mode := by
    intro o
    cases mode <;> simp [Operation.key, Operation.tagKey, Operation.routeKey, htags, hpath]
  have hdraft : t.draftGroups mode = s.draftGroups mode := by
    simp [draftGroups, ht, List.zipIdx_map, List.foldl_map, hkey]
  have hdescribe : t.describe = s.describe := by
    have hfirst : Operation.firstDescription ∘ h = Operation.firstDescription := by
      funext o
      simp [Operation.firstDescription, htags]
    have hdescription : t.descriptionAt = s.descriptionAt := by
      funext i
      rw [descriptionAt, ht, List.getElem?_map, Option.bind_map, hfirst, descriptionAt]
    funext g
    rw [describe, describe, hdescription]
  rw [groupOperations, groupOperations, hdraft, hdescribe]

/-- A run of stages is a fold for each operation and each model. -/
theorem runStages_eq (o : Options) (mode : GroupBy) (stages : List Stage) (s : Spec) :
    s.runStages o mode stages =
      { info := s.info
        operations := s.operations.map fun op =>
          stages.foldl (fun op stage => stage.onOperation (s.retype o) op) op
        models := s.models.map fun m =>
          stages.foldl (fun m stage => stage.onModel o (s.retype o) m) m
        groups := if Stage.groups ∈ stages then s.groupOperations mode else s.groups } := by
  induction stages generalizing s with
  | nil => simp [runStages]
  | cons stage rest ih =>
    have hstep := Stage.run_eq o mode stage s
    have hnames : (stage.run o mode s).models.map (·.name) = s.models.map (·.name) := by
      rw [hstep, List.map_map]
      congr 1
      funext m
      exact stage.name_onModel o _ m
    have hgroups : (stage.run o mode s).groupOperations mode = s.groupOperations mode :=
      groupOperations_congr (by rw [hstep]) (stage.tags_onOperation _) (stage.path_onOperation _)
        mode
    have hcons : s.runStages o mode (stage :: rest) =
        (stage.run o mode s).runStages o mode rest := rfl
    rw [hcons, ih, retype_congr hnames, hgroups, hstep]
    simp only [List.map_map, List.foldl_cons, Function.comp_def]
    congr 1
    by_cases hrest : Stage.groups ∈ rest
    · simp [hrest]
    · by_cases hstage : stage = .groups <;> simp [hrest, hstage, eq_comm]

end Spec

end SpringScaffold
