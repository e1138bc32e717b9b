import SpringScaffold.Proofs.StageRepeat

/-! What the suffix of class names changes in a processed description. A description that is
processed with the suffix is the one that is processed without it, with suffixed class names and
with the suffix behind every reference to a model in what the given description declared
(`Spec.postProcess_dto`). -/

namespace SpringScaffold

/-- The text of a type signature with the suffix behind every maximal run of identifier characters
that is the name of a model. -/
def Spec.suffixReferences (s : Spec) (t : String) : String :=
  String.ofList (Text.mapRuns Signature.isReference
    (fun w => if String.ofList w ∈ s.models.map (·.name) then w ++ Model.dtoSuffix.toList else w)
    t.toList)

/-- Changes the type of a response if the given response declares one. -/
def Response.mapDeclared (f : String → String) (given : Option Response) (r : Response) :
    Response :=
  if (given.bind (·.dataType)).isSome then r.mapType f else r

/-- Changes the types of an operation. The return type and the types of the responses change only
where the given operation declares them. -/
def Operation.mapDeclared (f : String → String) (given : Option Operation) (o : Operation) :
    Operation :=
  { o with
    returnType := if (given.bind (·.returnType)).isSome then o.returnType.map f else o.returnType
    responses := o.responses.mapIdx fun i r => r.mapDeclared f (given.bind (·.responses[i]?))
    parameters := o.parameters.map (Parameter.mapType f)
    implicitHeaders := o.implicitHeaders.map (Parameter.mapType f) }

/-- A processed description with the suffix added to class names and references. What was absent in
the given description is no reference. -/
def Spec.suffixed (given s : Spec) : Spec :=
  { s with
    operations := s.operations.mapIdx fun i o =>
      o.mapDeclared given.suffixReferences given.operations[i]?
    models := s.models.map fun m =>
      { m with
        className := m.name ++ Model.dtoSuffix
        properties := m.properties.map (Property.mapType given.suffixReferences) } }

theorem mapIdx_map_getElem? {α β γ : Type} (l : List α) (h : α → β) (g : Option α → β → γ) :
    (l.map h).mapIdx (fun i b => g l[i]? b) = l.map fun a => g (some a) (h a) := by
  apply List.ext_getElem?
  intro i
  rw [List.getElem?_mapIdx, List.getElem?_map, List.getElem?_map]
  cases l[i]? <;> rfl

theorem Operation.processed_eq_mapDeclared {f : String → String} (hf : Signature.Suffixing f)
    (o : Operation) :
    o.processed (Signature.substitute f) =
      o.addImports.normalize.mapDeclared (Signature.substitute f) (some o) := by
  have hresponses : Response.normalize ∘ Response.mapType (Signature.substitute f) = fun r =>
      r.normalize.mapDeclared (Signature.substitute f) (some r) :=
    funext (Response.normalize_mapType hf)
  have hgiven := mapIdx_map_getElem? o.responses Response.normalize fun given r =>
    r.mapDeclared (Signature.substitute f) given
  rw [processed, addImports_mapTypes]
  simp only [normalize_eq, addImports_eq, mapTypes, mapDeclared, Option.bind_some, hgiven,
    List.map_map, hresponses, Signature.unwrap_map hf, List.map_append]
  rw [filter_mapType _ _ fun p => rfl, filter_mapType _ _ fun p => rfl]

namespace Spec

theorem suffixReferences_eq (s : Spec) :
    s.suffixReferences = Signature.substitute (s.reference true) := by
  have hruns : Signature.onChars (s.reference true) = fun w =>
      if String.ofList w ∈ s.models.map (·.name) then w ++ Model.dtoSuffix.toList else w := by
    funext w
    by_cases hw : String.ofList w ∈ s.models.map (·.name)
    · rw [if_pos hw, Signature.onChars, reference, if_pos (by simpa using hw),
        String.toList_append, String.toList_ofList]
    · rw [if_neg hw, Signature.onChars, reference, if_neg (by simpa using hw),
        String.toList_ofList]
  funext t
  rw [← String.toList_inj, Signature.toList_substitute, suffixReferences, String.toList_ofList,
    hruns]

theorem retype_of_dto_eq_false {o : Options} (h : o.dto = false) (s : Spec) : s.retype o = id := by
  have hreference : s.reference o.dto = id := by
    funext id
    rw [h]
    rfl
  funext t
  rw [retype, hreference, Signature.substitute_id]
  rfl

theorem retype_of_dto_eq_true {o : Options} (h : o.dto = true) (s : Spec) :
    s.retype o = s.suffixReferences := by
  rw [retype, h, suffixReferences_eq]

end Spec

theorem Operation.processed_id (o : Operation) : o.processed id = o.addImports.normalize := by
  rw [processed, mapTypes_id]

/-- Without the suffix a model keeps its name and its references. -/
theorem Model.processed_dto (o : Options) (f : String → String) (m : Model) :
    m.processed { o with dto := true } f =
      { m.processed { o with dto := false } id with
        className := m.name ++ dtoSuffix
        properties :=
          (m.processed { o with dto := false } id).properties.map (Property.mapType f) } := by
  have hproperty : Property.mapType id = id := rfl
  rw [processed, processed, annotate_named, annotate_named]
  simp only [named, classNameOf, hproperty, List.map_id]
  rfl

namespace Spec

/-- Processing with the suffix is processing without it, which keeps the operations and their
responses in their places, and adding the suffix afterwards. -/
theorem postProcess_dto (o : Options) (mode : GroupBy) (s : Spec) :
    let plain := s.postProcess { o with dto := false } mode
    (plain.operations.map (·.responses.length) = s.operations.map (·.responses.length)) ∧
      s.postProcess { o with dto := true } mode = s.suffixed plain := by
  have hf := s.suffixing_reference true
  have hplain := postProcess_eq { o with dto := false } mode s
  have hdto := postProcess_eq { o with dto := true } mode s
  rw [retype_of_dto_eq_false rfl] at hplain
  rw [retype_of_dto_eq_true rfl] at hdto
  have hoperations : (s.operations.map (Operation.processed id)).mapIdx
      (fun i op => op.mapDeclared s.suffixReferences s.operations[i]?) =
        s.operations.map (Operation.processed s.suffixReferences) := by
    rw [mapIdx_map_getElem? s.operations (Operation.processed id) fun given op =>
      op.mapDeclared s.suffixReferences given]
    apply List.map_congr_left
    intro op _
    rw [suffixReferences_eq, Operation.processed_eq_mapDeclared hf, Operation.processed_id]
  have hmodels : s.models.map (Model.processed { o with dto := true } s.suffixReferences) =
      (s.models.map (Model.processed { o with dto := false } id)).map fun m =>
        { m with
          className := m.name ++ Model.dtoSuffix
          properties := m.properties.map (Property.mapType s.suffixReferences) } := by
    rw [List.map_map]
    exact List.map_congr_left fun m _ => m.processed_dto o s.suffixReferences
  constructor
  · rw [hplain, List.map_map]
    apply List.map_congr_left
    intro op _
    simp [Operation.processed, Operation.mapTypes, Operation.addImports_eq, Operation.normalize_eq]
  · rw [hdto, hplain, suffixed, hoperations, hmodels]

end Spec

end SpringScaffold
