import Mathlib.Data.List.Basic
import SpringScaffold.Proofs.Imports
import SpringScaffold.Proofs.Rename

/-! What the stages do to one operation and to one model, field by field, and how this goes together
with renaming the type signatures. A return type and the type of a response are split by one rule
(`Signature.unwrap`), so each fact about splitting is stated once. -/

namespace SpringScaffold

namespace Signature

/-- A declared type and its container after splitting. A container that is there already is kept. -/
def unwrap (t : Option String) (k : Container) : Option String × Container :=
  if k.isNone then
    match split? t with
    | some u => (some u.base, u.container)
    | none => (t, k)
  else (t, k)

theorem unwrap_of_isNone_eq_false {k : Container} (h : k.isNone = false) (t : Option String) :
    unwrap t k = (t, k) := by
  simp [unwrap, h]

theorem isNone_eq_false {k : Container} (h : k ≠ .none) : k.isNone = false := by
  simpa [Container.isNone] using h

/-- An absent type becomes the void type, or stays absent below a container. -/
theorem unwrap_absent (k : Container) :
    unwrap none k = (if k.isNone then some void else none, k) := by
  cases k <;> rfl

/-- What was declared is split the same way under other names, and what was absent stays absent. -/
theorem unwrap_map {f : String → String} (hf : Suffixing f) (t : Option String) (k : Container) :
    unwrap (t.map (substitute f)) k =
      (if t.isSome then (unwrap t k).1.map (substitute f) else (unwrap t k).1, (unwrap t k).2) := by
  cases t with
  | none => rfl
  | some s =>
    cases hk : k.isNone with
    | false => simp [unwrap_of_isNone_eq_false hk]
    | true =>
      rw [Option.map_some, unwrap, unwrap, if_pos hk, if_pos hk, split?_substitute hf]
      cases split? (some s) <;> rfl

/-- A renaming that leaves the void type alone need not know what was declared. -/
theorem unwrap_map_of_void {f : String → String} (hf : Suffixing f) (hvoid : f void = void)
    (t : Option String) (k : Container) :
    unwrap (t.map (substitute f)) k = ((unwrap t k).1.map (substitute f), (unwrap t k).2) := by
  rw [unwrap_map hf]
  cases t with
  | none =>
    rw [unwrap_absent]
    cases k.isNone <;> simp [substitute_void, hvoid]
  | some s => rfl

/-- What has been split once is not split again. -/
theorem unwrap_unwrap (t : Option String) (k : Container) :
    unwrap (unwrap t k).1 (unwrap t k).2 = unwrap t k := by
  cases hk : k.isNone with
  | false => simp [unwrap_of_isNone_eq_false hk]
  | true =>
    cases t with
    | none => rw [unwrap_absent, if_pos hk, unwrap, if_pos hk, split?_void]
    | some s =>
      cases h : split? (some s) with
      | none =>
        have hu : unwrap (some s) k = (some s, k) := by rw [unwrap, if_pos hk, h]
        rw [hu, hu]
      | some u =>
        have hu : unwrap (some s) k = (some u.base, u.container) := by rw [unwrap, if_pos hk, h]
        rw [hu, unwrap_of_isNone_eq_false (isNone_eq_false (container_ne_none_of_split? h))]

end Signature

def Parameter.mapType (f : String → String) (p : Parameter) : Parameter :=
  { p with dataType := f p.dataType }

def Property.mapType (f : String → String) (p : Property) : Property :=
  { p with dataType := f p.dataType }

namespace Response

def mapType (f : String → String) (r : Response) : Response :=
  { r with dataType := r.dataType.map f }

theorem normalize_eq (r : Response) :
    r.normalize =
      { r with
        code := if r.code = placeholderCode then "200" else r.code
        dataType := (Signature.unwrap r.dataType r.container).1
        container := (Signature.unwrap r.dataType r.container).2 } := by
  unfold normalize Signature.unwrap
  by_cases hc : r.code = placeholderCode
  · cases hk : r.container.isNone <;> cases hs : Signature.split? r.dataType <;> simp [hc, hk, hs]
  · cases hk : r.container.isNone <;> cases hs : Signature.split? r.dataType <;> simp [hc, hk, hs]

theorem normalize_normalize (r : Response) : r.normalize.normalize = r.normalize := by
  have hcode : ∀ code : String,
      (if (if code = placeholderCode then "200" else code) = placeholderCode then "200"
        else if code = placeholderCode then "200" else code) =
      if code = placeholderCode then "200" else code := by
    intro code
    by_cases hc : code = placeholderCode
    · simp [hc, placeholderCode]
    · simp [hc]
  simp only [normalize_eq, Signature.unwrap_unwrap, hcode]

theorem normalize_mapType {f : String → String} (hf : Signature.Suffixing f) (r : Response) :
    (r.mapType (Signature.substitute f)).normalize =
      if r.dataType.isSome then r.normalize.mapType (Signature.substitute f) else r.normalize := by
  simp only [normalize_eq, mapType, Signature.unwrap_map hf]
  cases r.dataType.isSome <;> rfl

theorem normalize_mapType_of_void {f : String → String} (hf : Signature.Suffixing f)
    (hvoid : f Signature.void = Signature.void) (r : Response) :
    (r.mapType (Signature.substitute f)).normalize =
      r.normalize.mapType (Signature.substitute f) := by
  simp only [normalize_eq, mapType, Signature.unwrap_map_of_void hf hvoid]

end Response

namespace Operation

def mapTypes (f : String → String) (o : Operation) : Operation :=
  { o with
    returnType := o.returnType.map f
    responses := o.responses.map (Response.mapType f)
    parameters := o.parameters.map (Parameter.mapType f)
    implicitHeaders := o.implicitHeaders.map (Parameter.mapType f) }

theorem mapTypes_id (o : Operation) : o.mapTypes id = o := by
  have hparameter : Parameter.mapType id = id := rfl
  have hresponse : Response.mapType id = id := by
    funext r
    simp [Response.mapType]
  simp [mapTypes, hparameter, hresponse]

theorem addImports_eq (o : Operation) :
    o.addImports =
      { o with
        imports :=
          if o.parameters.any Parameter.isTemporal then o.imports.insert ImportId.dateTimeFormat
          else o.imports } := by
  unfold addImports
  split <;> rfl

theorem splitReturn_eq (o : Operation) :
    o.splitReturn =
      { o with
        returnType := (Signature.unwrap o.returnType o.returnContainer).1
        returnContainer := (Signature.unwrap o.returnType o.returnContainer).2 } := by
  unfold splitReturn Signature.unwrap
  cases hk : o.returnContainer.isNone <;> cases hs : Signature.split? o.returnType <;> simp

theorem normalize_eq (o : Operation) :
    o.normalize =
      { o with
        responses := o.responses.map Response.normalize
        returnType := (Signature.unwrap o.returnType o.returnContainer).1
        returnContainer := (Signature.unwrap o.returnType o.returnContainer).2
        parameters := o.parameters.filter fun p => !p.isImplicitHeader
        implicitHeaders :=
          o.implicitHeaders ++ o.parameters.filter Parameter.isImplicitHeader } := by
  simp [normalize, splitReturn_eq, splitHeaders, List.partition_eq_filter_filter, Function.comp_def]

@[simp] theorem tags_mapTypes (f : String → String) (o : Operation) :
    (o.mapTypes f).tags = o.tags := rfl

@[simp] theorem path_mapTypes (f : String → String) (o : Operation) :
    (o.mapTypes f).path = o.path := rfl

@[simp] theorem tags_addImports (o : Operation) : o.addImports.tags = o.tags := by
  rw [addImports_eq]

@[simp] theorem path_addImports (o : Operation) : o.addImports.path = o.path := by
  rw [addImports_eq]

@[simp] theorem tags_normalize (o : Operation) : o.normalize.tags = o.tags := by
  rw [normalize_eq]

@[simp] theorem path_normalize (o : Operation) : o.normalize.path = o.path := by
  rw [normalize_eq]

theorem normalize_normalize (o : Operation) : o.normalize.normalize = o.normalize := by
  have hresponses : Response.normalize ∘ Response.normalize = Response.normalize :=
    funext Response.normalize_normalize
  have hheaders : (o.parameters.filter fun p => !p.isImplicitHeader).filter
      Parameter.isImplicitHeader = [] := by
    simp [List.filter_filter]
  simp only [normalize_eq, List.map_map, hresponses, Signature.unwrap_unwrap, hheaders,
    List.filter_filter, Bool.and_self, List.append_nil]

/-- A temporal parameter that is left after the headers went was there before. -/
theorem addImports_normalize_addImports (o : Operation) :
    o.addImports.normalize.addImports = o.addImports.normalize := by
  have himports : ∀ i : ImportSet,
      (if (o.parameters.filter fun p => !p.isImplicitHeader).any Parameter.isTemporal then
        (if o.parameters.any Parameter.isTemporal then i.insert ImportId.dateTimeFormat
          else i).insert ImportId.dateTimeFormat
        else if o.parameters.any Parameter.isTemporal then i.insert ImportId.dateTimeFormat
        else i) =
      if o.parameters.any Parameter.isTemporal then i.insert ImportId.dateTimeFormat else i := by
    intro i
    by_cases h : (o.parameters.filter fun p => !p.isImplicitHeader).any Parameter.isTemporal = true
    · have hall : o.parameters.any Parameter.isTemporal = true := by
        obtain ⟨p, hp, ht⟩ := List.any_eq_true.1 h
        exact List.any_eq_true.2 ⟨p, List.mem_of_mem_filter hp, ht⟩
      rw [if_pos h, if_pos hall]
      exact ImportSet.insert_of_mem (ImportSet.mem_insert.2 (.inr rfl))
    · rw [if_neg h]
  simp only [addImports_eq, normalize_eq, himports]

theorem addImports_mapTypes (f : String → String) (o : Operation) :
    (o.mapTypes f).addImports = o.addImports.mapTypes f := by
  simp only [addImports_eq, mapTypes, List.any_map]
  rfl

theorem filter_mapType (f : String → String) (keep : Parameter → Bool)
    (hkeep : ∀ p, keep (p.mapType f) = keep p) (ps : List Parameter) :
    (ps.map (Parameter.mapType f)).filter keep = (ps.filter keep).map (Parameter.mapType f) := by
  rw [List.filter_map]
  congr 2
  funext p
  exact hkeep p

theorem normalize_mapTypes {f : String → String} (hf : Signature.Suffixing f)
    (hvoid : f Signature.void = Signature.void) (o : Operation) :
    (o.mapTypes (Signature.substitute f)).normalize =
      o.normalize.mapTypes (Signature.substitute f) := by
  have hresponses : Response.normalize ∘ Response.mapType (Signature.substitute f) =
      Response.mapType (Signature.substitute f) ∘ Response.normalize :=
    funext (Response.normalize_mapType_of_void hf hvoid)
  simp only [normalize_eq, mapTypes, List.map_map, hresponses,
    Signature.unwrap_map_of_void hf hvoid, List.map_append]
  rw [filter_mapType _ _ fun p => rfl, filter_mapType _ _ fun p => rfl]

end Operation

namespace Model

/-- A model with its class name and its references renamed. -/
def named (dto : Bool) (f : String → String) (m : Model) : Model :=
  { m with
    className := classNameOf dto m.name
    properties := m.properties.map (Property.mapType f) }

theorem clearNullExample_mapType (f : String → String) (p : Property) :
    (p.mapType f).clearNullExample = p.clearNullExample.mapType f := by
  unfold Property.clearNullExample Property.mapType
  split <;> rfl

theorem clearNullExample_clearNullExample (p : Property) :
    p.clearNullExample.clearNullExample = p.clearNullExample := by
  unfold Property.clearNullExample
  split <;> simp_all

theorem importsFor_clearNullExample (o : Options) (m : Model) (p : Property) :
    m.importsFor o p.clearNullExample = m.importsFor o p := by
  unfold Property.clearNullExample
  split <;> rfl

theorem annotate_named (o : Options) (dto : Bool) (f : String → String) (m : Model) :
    (m.named dto f).annotate o = (m.annotate o).named dto f := by
  have himports : (m.properties.map (Property.mapType f)).flatMap (m.importsFor o) =
      m.properties.flatMap (m.importsFor o) := by
    rw [List.flatMap_map]
    rfl
  have hproperties : Property.clearNullExample ∘ Property.mapType f =
      Property.mapType f ∘ Property.clearNullExample :=
    funext (clearNullExample_mapType f)
  have hnamed : (m.named dto f).importsFor o = m.importsFor o := rfl
  simp only [annotate, hnamed]
  simp only [named, List.map_map, himports, hproperties]

theorem annotate_annotate (o : Options) (m : Model) :
    (m.annotate o).annotate o = m.annotate o := by
  have himports : (m.properties.map Property.clearNullExample).flatMap (m.importsFor o) =
      m.properties.flatMap (m.importsFor o) := by
    rw [List.flatMap_map]
    congr 1
    exact funext (importsFor_clearNullExample o m)
  have hproperties : Property.clearNullExample ∘ Property.clearNullExample =
      Property.clearNullExample :=
    funext clearNullExample_clearNullExample
  have hannotated : (m.annotate o).importsFor o = m.importsFor o := rfl
  rw [annotate, hannotated]
  simp only [annotate, List.map_map, himports, hproperties, ImportSet.insertAll_insertAll]

end Model

section Twice

variable {f : String → String} (hf : ∀ t, f (f t) = f t)
include hf

theorem Model.named_named (dto : Bool) (m : Model) :
    (m.named dto f).named dto f = m.named dto f := by
  have hproperties : Property.mapType f ∘ Property.mapType f = Property.mapType f := by
    funext p
    simp [Property.mapType, hf]
  simp only [Model.named, List.map_map, hproperties]

theorem Operation.mapTypes_mapTypes (o : Operation) : (o.mapTypes f).mapTypes f = o.mapTypes f := by
  have hcomp : f ∘ f = f := funext hf
  have hparameters : Parameter.mapType f ∘ Parameter.mapType f = Parameter.mapType f := by
    funext p
    simp [Parameter.mapType, hf]
  have hresponses : Response.mapType f ∘ Response.mapType f = Response.mapType f := by
    funext r
    simp [Response.mapType, hcomp]
  simp only [Operation.mapTypes, List.map_map, Option.map_map, hcomp, hparameters, hresponses]

end Twice

end SpringScaffold
