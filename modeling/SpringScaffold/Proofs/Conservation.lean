import Mathlib.Data.List.Infix
import SpringScaffold.Proofs.DtoSuffix
import SpringScaffold.Spec.Load

/-! What the stages leave alone and what they bring about. Any run of stages keeps the fixed part of
a description, which is all that no stage is there to change, and adds imports only behind those
that are there. All stages together sort the parameters of every operation into those that stay and
the implicit headers, and leave no placeholder behind (`Spec.postProcess_conserves`). A return type
is absent afterwards only where a container was declared without one
(`Spec.postProcess_returnType`). -/

namespace SpringScaffold

/-- A header whose mark is there and is exactly true. -/
def Parameter.IsImplicit (p : Parameter) : Prop :=
  p.location = .header ∧ p.extensions.find? "x-implicit-header" = some (.bool true)

theorem Parameter.isImplicitHeader_iff (p : Parameter) :
    p.isImplicitHeader = true ↔ p.IsImplicit := by
  rw [isImplicitHeader, implicitHeaderMark, Bool.and_eq_true, beq_iff_eq, IsImplicit]
  refine and_congr_right fun _ => ?_
  split
  · next b h => simp [h]
  · next h =>
    constructor
    · intro hfalse
      cases hfalse
    · intro htrue
      exact absurd htrue (h true)

instance (p : Parameter) : Decidable p.IsImplicit := decidable_of_iff _ p.isImplicitHeader_iff

/-! ### The fixed part -/

/-- A response without its code, its type and its container. -/
def Response.fixed (r : Response) : Response :=
  { r with code := "", dataType := none, container := .none }

/-- An operation without its types, its parameters and its imports. -/
def Operation.fixed (o : Operation) : Operation :=
  { o with
    parameters := []
    implicitHeaders := []
    responses := o.responses.map Response.fixed
    returnType := none
    returnContainer := .none
    imports := .empty }

/-- A property without its type and its example. -/
def Property.fixed (p : Property) : Property := { p with dataType := "", sample := none }

/-- A model without its class name and its imports. -/
def Model.fixed (m : Model) : Model :=
  { m with className := "", properties := m.properties.map Property.fixed, imports := .empty }

/-- A description without what the stages are there to change: as many operations, responses, models
and properties, with whatever else they hold. -/
def Spec.fixed (s : Spec) : Spec :=
  { s with
    operations := s.operations.map Operation.fixed
    models := s.models.map Model.fixed
    groups := [] }

namespace Stage

theorem fixed_onOperation (f : String → String) (stage : Stage) (o : Operation) :
    (stage.onOperation f o).fixed = o.fixed := by
  cases stage with
  | modelNames =>
    have hresponse : Response.fixed ∘ Response.mapType f = Response.fixed := rfl
    simp only [onOperation, Operation.fixed, Operation.mapTypes, List.map_map, hresponse]
  | operationImports =>
    rw [onOperation, Operation.addImports_eq]
    rfl
  | operations =>
    have hresponse : Response.fixed ∘ Response.normalize = Response.fixed := by
      funext r
      rw [Function.comp_apply, Response.normalize_eq]
      rfl
    simp only [onOperation, Operation.fixed, Operation.normalize_eq, List.map_map, hresponse]
  | modelProperties => rfl
  | groups => rfl

theorem fixed_onModel (o : Options) (f : String → String) (stage : Stage) (m : Model) :
    (stage.onModel o f m).fixed = m.fixed := by
  cases stage with
  | modelNames =>
    have hproperty : Property.fixed ∘ Property.mapType f = Property.fixed := rfl
    simp only [onModel, Model.fixed, Model.named, List.map_map, hproperty]
  | modelProperties =>
    have hproperty : Property.fixed ∘ Property.clearNullExample = Property.fixed := by
      funext p
      rw [Function.comp_apply, Property.clearNullExample]
      split <;> rfl
    simp only [onModel, Model.fixed, Model.annotate, List.map_map, hproperty]
  | operationImports => rfl
  | operations => rfl
  | groups => rfl

/-- A stage keeps the fixed part. -/
theorem fixed_run (o : Options) (mode : GroupBy) (stage : Stage) (s : Spec) :
    (stage.run o mode s).fixed = s.fixed := by
  have hoperations : Operation.fixed ∘ stage.onOperation (s.retype o) = Operation.fixed :=
    funext (stage.fixed_onOperation _)
  have hmodels : Model.fixed ∘ stage.onModel o (s.retype o) = Model.fixed :=
    funext (stage.fixed_onModel o _)
  rw [run_eq]
  simp only [Spec.fixed, List.map_map, hoperations, hmodels]

end Stage

/-- Any run of stages keeps it. -/
theorem Spec.fixed_runStages (o : Options) (mode : GroupBy) (stages : List Stage) (s : Spec) :
    (s.runStages o mode stages).fixed = s.fixed := by
  -- later stages start from what earlier ones made, so the description is not held fixed
  induction stages generalizing s with
  | nil => rfl
  | cons stage rest ih => exact (ih (stage.run o mode s)).trans (stage.fixed_run o mode s)

/-! ### Imports -/

/-- Every list of imports begins with the former one. None of them repeats an import, so what
follows is new. -/
structure Spec.ExtendsImports (s t : Spec) : Prop where
  operations : List.Forall₂ (fun a b : Operation => a.imports.ids <+: b.imports.ids)
    s.operations t.operations
  models : List.Forall₂ (fun a b : Model => a.imports.ids <+: b.imports.ids) s.models t.models

namespace Stage

theorem ids_prefix_onOperation (f : String → String) (stage : Stage) (o : Operation) :
    o.imports.ids <+: (stage.onOperation f o).imports.ids := by
  cases stage with
  | operationImports =>
    rw [onOperation, Operation.addImports_eq]
    dsimp only
    split
    · exact o.imports.ids_prefix_insert _
    · exact List.prefix_refl _
  | operations =>
    rw [onOperation, Operation.normalize_eq]
  | modelNames => exact List.prefix_refl _
  | modelProperties => exact List.prefix_refl _
  | groups => exact List.prefix_refl _

theorem ids_prefix_onModel (o : Options) (f : String → String) (stage : Stage) (m : Model) :
    m.imports.ids <+: (stage.onModel o f m).imports.ids := by
  cases stage with
  | modelProperties => exact m.imports.ids_prefix_insertAll _
  | modelNames => exact List.prefix_refl _
  | operationImports => exact List.prefix_refl _
  | operations => exact List.prefix_refl _
  | groups => exact List.prefix_refl _

theorem ids_prefix_foldl_onOperation (f : String → String) (stages : List Stage) (o : Operation) :
    o.imports.ids <+: (stages.foldl (fun o stage => stage.onOperation f o) o).imports.ids := by
  induction stages generalizing o with
  | nil => exact List.prefix_refl _
  | cons stage rest ih => exact (stage.ids_prefix_onOperation f o).trans (ih _)

theorem ids_prefix_foldl_onModel (o : Options) (f : String → String) (stages : List Stage)
    (m : Model) :
    m.imports.ids <+: (stages.foldl (fun m stage => stage.onModel o f m) m).imports.ids := by
  induction stages generalizing m with
  | nil => exact List.prefix_refl _
  | cons stage rest ih => exact (stage.ids_prefix_onModel o f m).trans (ih _)

end Stage

/-- Any run of stages only adds imports, and adds them at the end. -/
theorem Spec.extendsImports_runStages (o : Options) (mode : GroupBy) (stages : List Stage)
    (s : Spec) : s.ExtendsImports (s.runStages o mode stages) := by
  rw [runStages_eq]
  constructor
  · rw [List.forall₂_map_right_iff, List.forall₂_same]
    exact fun op _ => Stage.ids_prefix_foldl_onOperation _ stages op
  · rw [List.forall₂_map_right_iff, List.forall₂_same]
    exact fun m _ => Stage.ids_prefix_foldl_onModel o _ stages m

/-! ### Parameters and placeholders -/

/-- The parameters of the second operation are those of the first that are no implicit headers, and
its implicit headers are the former ones and behind them those that went, in their order and with
`f` for their types. -/
structure Operation.SplitsHeaders (f : String → String) (a b : Operation) : Prop where
  parameters : b.parameters =
    (a.parameters.filter fun p => ¬ p.IsImplicit).map (Parameter.mapType f)
  implicitHeaders : b.implicitHeaders =
    (a.implicitHeaders ++ a.parameters.filter fun p => p.IsImplicit).map (Parameter.mapType f)

theorem Operation.splitsHeaders_processed (f : String → String) (o : Operation) :
    o.SplitsHeaders f (o.processed f) := by
  have himplicit : (fun p : Parameter => decide p.IsImplicit) = Parameter.isImplicitHeader := by
    funext p
    rw [Bool.eq_iff_iff, decide_eq_true_iff, p.isImplicitHeader_iff]
  have hexplicit : (fun p : Parameter => decide ¬ p.IsImplicit) = fun p => !p.isImplicitHeader := by
    funext p
    rw [decide_not, ← himplicit]
  rw [processed, addImports_mapTypes, normalize_eq]
  constructor
  · rw [hexplicit, ← filter_mapType f _ fun _ => rfl, addImports_eq]
    rfl
  · rw [himplicit, List.map_append, ← filter_mapType f _ fun _ => rfl, addImports_eq]
    rfl

theorem Operation.codes_processed (f : String → String) (o : Operation) :
    (o.processed f).responses.map (·.code) =
      o.responses.map fun r => if r.code = "0" then "200" else r.code := by
  rw [processed, addImports_mapTypes, normalize_eq, addImports_eq]
  simp only [mapTypes, List.map_map]
  apply List.map_congr_left
  intro r _
  simp only [Function.comp_apply, Response.normalize_eq]
  rfl

theorem Property.sample_clearNullExample (p : Property) :
    p.clearNullExample.sample = if p.sample = some "null" then none else p.sample := by
  unfold clearNullExample Model.nullExample
  split <;> rfl

theorem Model.samples_processed (o : Options) (f : String → String) (m : Model) :
    (m.processed o f).properties.map (·.sample) =
      m.properties.map fun p => if p.sample = some "null" then none else p.sample := by
  simp only [processed, annotate, named, List.map_map]
  apply List.map_congr_left
  intro p _
  exact (p.mapType f).sample_clearNullExample

namespace Spec

/-- What the class names make of a signature: with the suffix it stands behind every reference. -/
theorem retype_eq (o : Options) (s : Spec) :
    s.retype o = if o.dto then s.suffixReferences else id := by
  cases h : o.dto with
  | false => exact retype_of_dto_eq_false h s
  | true => exact retype_of_dto_eq_true h s

/-- Nothing is lost and nothing is made up from one description to the other. -/
structure Conserves (o : Options) (s t : Spec) : Prop where
  fixed : t.fixed = s.fixed
  imports : s.ExtendsImports t
  headers : List.Forall₂ (Operation.SplitsHeaders (if o.dto then s.suffixReferences else id))
    s.operations t.operations
  codes : t.operations.map (·.responses.map (·.code)) =
    s.operations.map (·.responses.map fun r => if r.code = "0" then "200" else r.code)
  samples : t.models.map (·.properties.map (·.sample)) =
    s.models.map (·.properties.map fun p => if p.sample = some "null" then none else p.sample)

/-- No placeholder is left, and every model has the class name that belongs to its name. -/
structure IsNormal (o : Options) (s : Spec) : Prop where
  codes : ∀ op ∈ s.operations, ∀ r ∈ op.responses, r.code ≠ "0"
  samples : ∀ m ∈ s.models, ∀ p ∈ m.properties, p.sample ≠ some "null"
  parameters : ∀ op ∈ s.operations, ∀ p ∈ op.parameters, ¬ p.IsImplicit
  classNames : ∀ m ∈ s.models, m.className = Model.classNameOf o.dto m.name

theorem conserves_postProcess (o : Options) (mode : GroupBy) (s : Spec) :
    s.Conserves o (s.postProcess o mode) where
  fixed := s.fixed_runStages o mode Stage.all
  imports := s.extendsImports_runStages o mode Stage.all
  headers := by
    rw [postProcess_eq, List.forall₂_map_right_iff, List.forall₂_same, ← retype_eq]
    exact fun op _ => op.splitsHeaders_processed _
  codes := by
    rw [postProcess_eq, List.map_map]
    exact List.map_congr_left fun op _ => op.codes_processed _
  samples := by
    rw [postProcess_eq, List.map_map]
    exact List.map_congr_left fun m _ => m.samples_processed o _

theorem isNormal_postProcess (o : Options) (mode : GroupBy) (s : Spec) :
    (s.postProcess o mode).IsNormal o := by
  rw [postProcess_eq]
  constructor
  · intro op hop r hr
    obtain ⟨op, -, rfl⟩ := List.mem_map.1 hop
    have hcode : r.code ∈ (op.processed (s.retype o)).responses.map (·.code) :=
      List.mem_map_of_mem hr
    rw [op.codes_processed] at hcode
    obtain ⟨given, -, hgiven⟩ := List.mem_map.1 hcode
    rw [← hgiven]
    split
    · decide
    · assumption
  · intro m hm p hp
    obtain ⟨m, -, rfl⟩ := List.mem_map.1 hm
    have hsample : p.sample ∈ (m.processed o (s.retype o)).properties.map (·.sample) :=
      List.mem_map_of_mem hp
    rw [m.samples_processed] at hsample
    obtain ⟨given, -, hgiven⟩ := List.mem_map.1 hsample
    rw [← hgiven]
    split
    · simp
    · assumption
  · intro op hop p hp
    obtain ⟨op, -, rfl⟩ := List.mem_map.1 hop
    rw [(op.splitsHeaders_processed _).parameters] at hp
    obtain ⟨given, hgiven, rfl⟩ := List.mem_map.1 hp
    exact of_decide_eq_true (List.mem_filter.1 hgiven).2
  · intro m hm
    obtain ⟨m, -, rfl⟩ := List.mem_map.1 hm
    rfl

/-- All stages together lose nothing, make nothing up, and leave nothing to do. -/
theorem postProcess_conserves (o : Options) (mode : GroupBy) (s : Spec) :
    s.Conserves o (s.postProcess o mode) ∧ (s.postProcess o mode).IsNormal o :=
  ⟨s.conserves_postProcess o mode, s.isNormal_postProcess o mode⟩

end Spec

/-! ### Return types -/

/-- What is absent and has no container is void. -/
theorem Signature.unwrap_eq_none_iff {t : Option String} {k : Container} :
    (unwrap t k).1 = none ↔ t = none ∧ k ≠ .none := by
  cases t with
  | none =>
    rw [unwrap_absent]
    cases k <;> simp [Container.isNone]
  | some s =>
    unfold unwrap
    cases k.isNone with
    | false => simp
    | true => cases split? (some s) <;> simp

theorem Operation.unwrap_processed (f : String → String) (o : Operation) :
    ((o.processed f).returnType, (o.processed f).returnContainer) =
      Signature.unwrap (o.returnType.map f) o.returnContainer := by
  rw [processed, normalize_eq, addImports_eq]
  rfl

namespace Spec

/-- After all stages a return type is absent exactly where a container was declared without one.
Where neither was declared it is the void type. -/
theorem postProcess_returnType (o : Options) (mode : GroupBy) (s : Spec) :
    List.Forall₂
      (fun a b : Operation =>
        (b.returnType = none ↔ a.returnType = none ∧ a.returnContainer ≠ .none) ∧
        (a.returnType = none → a.returnContainer = .none →
          b.returnType = some "Void" ∧ b.returnContainer = .none))
      s.operations (s.postProcess o mode).operations := by
  rw [postProcess_eq, List.forall₂_map_right_iff, List.forall₂_same]
  intro op _
  have hunwrap := op.unwrap_processed (s.retype o)
  constructor
  · have htype : (op.processed (s.retype o)).returnType =
        (Signature.unwrap (op.returnType.map (s.retype o)) op.returnContainer).1 :=
      congrArg Prod.fst hunwrap
    rw [htype, Signature.unwrap_eq_none_iff, Option.map_eq_none_iff]
  · intro htype hcontainer
    rw [htype, hcontainer] at hunwrap
    exact Prod.mk.inj hunwrap

/-- A description with an operation that returns a list of nothing in particular. -/
def bareList : String :=
  "\x7b\"info\":\x7b\"title\":\"Shop\",\"version\":\"1.0\"\x7d,\"operations\":[" ++
    "\x7b\"operation_id\":\"listOrders\",\"method\":\"GET\",\"path\":\"/orders\"," ++
    "\"return_container\":\"list\"\x7d]\x7d"

/-- There the return type stays absent. -/
theorem returnType_bareList :
    ¬ ∀ (text : String) (s : Spec) (o : Options) (mode : GroupBy),
      ofJson text = .ok s ∨ ofYaml text = .ok s →
        ∀ op ∈ (s.postProcess o mode).operations, op.returnType ≠ none := by
  intro h
  have hloads : ((ofJson bareList).toOption.any fun s =>
      (s.postProcess Options.default .tag).operations.any (·.returnType.isNone)) = true := by
    decide +kernel
  cases hs : ofJson bareList with
  | error e =>
    rw [hs] at hloads
    cases hloads
  | ok s =>
    rw [hs] at hloads
    obtain ⟨op, hop, habsent⟩ := List.any_eq_true.1 hloads
    exact h bareList s Options.default .tag (.inl hs) op hop (Option.isNone_iff_eq_none.1 habsent)

end Spec

end SpringScaffold
