import SpringScaffold.Proofs.Records

/-! Writing a description as a JSON document and loading that again gives the same description
without its groups (`Spec.ofJson_toValue`), before the stages and after them. The free values in
vendor extensions are read back because they were read before. -/

namespace SpringScaffold

/-! ### Floating-point numbers -/

namespace Value

@[simp] theorem floatFree_ofOption (s : Option String) : (ofOption s).FloatFree := by
  cases s with
  | none => exact .null
  | some s => exact .text s

@[simp] theorem floatFree_text (s : String) : (text s).FloatFree := .text s

@[simp] theorem floatFree_bool (b : Bool) : (bool b).FloatFree := .bool b

theorem floatFree_map {α : Type} {f : α → Value} {l : List α} (h : ∀ a ∈ l, (f a).FloatFree) :
    (list (l.map f)).FloatFree := .list (List.forall_mem_map.2 h)

@[simp] theorem floatFree_texts (l : List String) : (texts l).FloatFree :=
  floatFree_map fun s _ => .text s

theorem floatFree_entries {d : Dictionary Value} (h : ∀ v ∈ d.values, v.FloatFree) :
    (object d.entries).FloatFree :=
  .object fun _ he => h _ (List.mem_map_of_mem he)

end Value

theorem Info.floatFree (i : Info) : i.toValue.FloatFree := .object (by simp)

theorem Tag.floatFree (t : Tag) : t.toValue.FloatFree := .object (by simp)

theorem Response.floatFree (r : Response) : r.toValue.FloatFree := .object (by simp)

theorem Parameter.floatFree {p : Parameter} (h : ∀ v ∈ p.extensions.values, v.FloatFree) :
    p.toValue.FloatFree := .object (by simp [Value.floatFree_entries h])

theorem Operation.floatFree {o : Operation} (h : ∀ v ∈ o.extensionValues, v.FloatFree) :
    o.toValue.FloatFree := by
  have hparameter : ∀ p ∈ o.parameters ++ o.implicitHeaders, p.toValue.FloatFree :=
    fun p hp => Parameter.floatFree fun v hv => h v (List.mem_flatMap.2 ⟨p, hp, hv⟩)
  have htags := Value.floatFree_map fun t (_ : t ∈ o.tags) => t.floatFree
  have hparameters := Value.floatFree_map fun p hp => hparameter p (List.mem_append_left _ hp)
  have hheaders := Value.floatFree_map fun p hp => hparameter p (List.mem_append_right _ hp)
  have hresponses := Value.floatFree_map fun r (_ : r ∈ o.responses) => r.floatFree
  exact .object (by simp [htags, hparameters, hheaders, hresponses])

theorem Property.floatFree (p : Property) : p.toValue.FloatFree := .object (by simp)

theorem Model.floatFree {m : Model} (h : ∀ v ∈ m.extensions.values, v.FloatFree) :
    m.toValue.FloatFree := by
  have hproperties := Value.floatFree_map fun p (_ : p ∈ m.properties) => p.floatFree
  exact .object (by simp [hproperties, Value.floatFree_entries h])

theorem Group.floatFree (g : Group) : g.toValue.FloatFree := by
  have hoperations := Value.floatFree_map fun (i : Nat) (_ : i ∈ g.operations) =>
    Value.FloatFree.integer i
  exact .object (by simp [Value.integer, hoperations])

namespace Json

theorem Tree.soundItems_eq_true {ts : List Tree} :
    soundItems ts = true ↔ ∀ t ∈ ts, t.sound = true := by
  induction ts with
  | nil => simp [soundItems]
  | cons t rest ih => simp [soundItems, ih]

theorem Tree.soundMembers_eq_true {ms : List (Option String × Tree)} :
    soundMembers ms = true ↔ ∀ m ∈ ms, m.2.sound = true := by
  induction ms with
  | nil => simp [soundMembers]
  | cons m rest ih =>
    obtain ⟨key, t⟩ := m
    rw [soundMembers, Bool.and_eq_true, soundMember, ih, List.forall_mem_cons]

theorem sound_ofValue {v : Value} (h : v.FloatFree) : (Tree.ofValue v).sound = true := by
  induction h with
  | null => rfl
  | bool b => rfl
  | integer i => rfl
  | text s => rfl
  | @list items _ ih =>
    rw [Tree.ofValue, Tree.sound, Bool.and_true, Tree.ofValues_eq, Tree.soundItems_eq_true]
    exact List.forall_mem_map.2 ih
  | @object ms _ ih =>
    rw [Tree.ofValue, Tree.sound, Option.isNone_none, Bool.and_true, Tree.ofMembers_eq,
      Tree.soundMembers_eq_true]
    exact List.forall_mem_map.2 ih

/-- The value is read back for any shape, be it as another value. -/
def Readable (depth : Nat) (v : Value) : Prop := ∃ w, fitFree depth (.ofValue v) = .ok w

section Readable

variable {depth : Nat} {ms : List (String × Value)}

theorem Readable.member (h : Readable depth (.object ms)) (name : String) {v : Value}
    (hm : (name, v) ∈ ms) : Readable (depth - 1) v := by
  obtain ⟨_, h⟩ := h
  obtain ⟨-, ns, hns, -⟩ := fitFree_ofObject.1 h
  obtain ⟨n, -, -, hn⟩ := exists_of_forall₂ hns.flip hm
  exact ⟨n.2, hn⟩

theorem Readable.items (h : Readable depth (.object ms)) (name : String) {α : Type}
    {f : α → Value} {l : List α} (hm : (name, .list (l.map f)) ∈ ms) {a : α} (ha : a ∈ l) :
    Readable (depth - 2) (f a) := by
  obtain ⟨_, hlist⟩ := h.member name hm
  obtain ⟨-, ws, hws, -⟩ := fitFree_ofList.1 hlist
  obtain ⟨w, -, hw⟩ := exists_of_forall₂ hws.flip (List.mem_map_of_mem ha)
  exact ⟨w, hw⟩

theorem Readable.entries (h : Readable depth (.object ms)) (name : String)
    {d : Dictionary Value} (hm : (name, .object d.entries) ∈ ms) {v : Value} (hv : v ∈ d.values) :
    Readable (depth - 2) v := by
  obtain ⟨⟨key, v⟩, he, rfl⟩ := List.mem_map.1 hv
  exact (h.member name hm).member key he

end Readable

end Json

namespace Spec

theorem floatFree {s : Spec} (h : ∀ v ∈ s.extensionValues, v.FloatFree) : s.toValue.FloatFree := by
  have hoperations := Value.floatFree_map fun o (ho : o ∈ s.operations) =>
    Operation.floatFree fun v hv =>
      h v (List.mem_append_left _ (List.mem_flatMap.2 ⟨o, ho, hv⟩))
  have hmodels := Value.floatFree_map fun m (hm : m ∈ s.models) =>
    Model.floatFree fun v hv => h v (List.mem_append_right _ (List.mem_flatMap.2 ⟨m, hm, hv⟩))
  have hgroups := Value.floatFree_map fun g (_ : g ∈ s.groups) => g.floatFree
  exact .object (by simp [s.info.floatFree, hoperations, hmodels, hgroups])

theorem readable_parameterValues {s : Spec} {depth : Nat} (h : Json.Readable depth s.toValue) :
    ∀ v ∈ s.parameterValues, Json.Readable (depth - 6) v := by
  intro v hv
  obtain ⟨o, ho, hv⟩ := List.mem_flatMap.1 hv
  obtain ⟨p, hp, hv⟩ := List.mem_flatMap.1 hv
  have hoperation : Json.Readable (depth - 2) o.toValue := h.items "operations" (by simp) ho
  have hparameter : Json.Readable (depth - 4) p.toValue := by
    rcases List.mem_append.1 hp with hp | hp
    · exact hoperation.items "parameters" (by simp) hp
    · exact hoperation.items "implicit_headers" (by simp) hp
  exact hparameter.entries "vendor_extensions" (by simp) hv

theorem readable_modelValues {s : Spec} {depth : Nat} (h : Json.Readable depth s.toValue) :
    ∀ v ∈ s.modelValues, Json.Readable (depth - 4) v := by
  intro v hv
  obtain ⟨m, hm, hv⟩ := List.mem_flatMap.1 hv
  have hmodel : Json.Readable (depth - 2) m.toValue := h.items "models" (by simp) hm
  exact hmodel.entries "vendor_extensions" (by simp) hv

/-- The members of a written description that are read: all but the groups. -/
def readMembers (s : Spec) : List (String × Value) := [
  ("info", s.info.toValue), ("operations", .list (s.operations.map Operation.toValue)),
  ("models", .list (s.models.map Model.toValue))]

theorem fit_toValue {s : Spec} {depth : Nat}
    (hparameters : ∀ v ∈ s.parameterValues, Json.fitFree (depth - 6) (.ofValue v) = .ok v)
    (hmodels : ∀ v ∈ s.modelValues, Json.fitFree (depth - 4) (.ofValue v) = .ok v) :
    Json.fit depth Shape.spec (.ofValue s.toValue) = .ok (.object s.readMembers) := by
  have hoperations : Json.fit (depth - 1) (.list Shape.operation)
      (.ofValue (.list (s.operations.map Operation.toValue))) =
      .ok (.list (s.operations.map Operation.toValue)) :=
    Json.fit_list_map fun o ho => Operation.fit_toValue fun v hv =>
      hparameters v (List.mem_flatMap.2 ⟨o, ho, hv⟩)
  have hmodels : Json.fit (depth - 1) (.list Shape.model)
      (.ofValue (.list (s.models.map Model.toValue))) =
      .ok (.list (s.models.map Model.toValue)) :=
    Json.fit_list_map fun m hm => Model.fit_toValue fun v hv =>
      hmodels v (List.mem_flatMap.2 ⟨m, hm, hv⟩)
  have hgroups : (Json.Tree.ofValue (.list (s.groups.map Group.toValue))).sound = true :=
    Json.sound_ofValue (Value.floatFree_map fun g _ => g.floatFree)
  have hmembers : s.toValue =
      .object (s.readMembers ++ [("groups", .list (s.groups.map Group.toValue))]) := rfl
  rw [hmembers]
  refine Json.fit_record_append ?_ ?_ ?_
  · decide
  · simp [readMembers, Shape.listMember, Info.fit_toValue, hoperations, hmodels]
  · simpa using ⟨rfl, hgroups⟩

theorem ofValue_readMembers (s : Spec) :
    ofValue (.object s.readMembers) = { s with groups := [] } := by
  simp [ofValue, readMembers, Value.member_cons, Info.ofValue_toValue,
    Value.toItems_map Operation.ofValue_toValue, Value.toItems_map Model.ofValue_toValue]

end Spec

/-! ### Loading again -/

/-- The text is read as a value of any shape. -/
def Json.Parses (text : String) : Prop :=
  (read text).2 = true ∧ ∃ v, fitFree depthLimit (read text).1 = .ok v

namespace Spec

variable {s : Spec}

theorem ofJson_rereads {text : String} (h : ofJson text = .ok s) :
    (∀ v ∈ s.parameterValues, v.FloatFree →
      Json.fitFree (Json.depthLimit - 6) (.ofValue v) = .ok v) ∧
    (∀ v ∈ s.modelValues, v.FloatFree →
      Json.fitFree (Json.depthLimit - 4) (.ofValue v) = .ok v) := by
  obtain ⟨v, hv, rfl⟩ := Json.map_eq_ok.1 h
  obtain ⟨-, hfit⟩ := Json.document_eq_ok.1 hv
  constructor
  · intro w hw hfree
    obtain ⟨t, ht⟩ := Json.reading.parameterValues ⟨_, hfit⟩ w hw
    exact Json.fitFree_again ht hfree
  · intro w hw hfree
    obtain ⟨t, ht⟩ := Json.reading.modelValues ⟨_, hfit⟩ w hw
    exact Json.fitFree_again ht hfree

theorem ofYaml_canonical {text : String} (h : ofYaml text = .ok s) :
    (∀ v ∈ s.parameterValues, v.Canonical) ∧ ∀ v ∈ s.modelValues, v.Canonical := by
  obtain ⟨v, hv, rfl⟩ := Json.map_eq_ok.1 h
  rw [Yaml.document] at hv
  split at hv
  · obtain ⟨⟨_, k⟩, hrun, rfl⟩ := Json.map_eq_ok.1 hv
    have hfits : ∃ a way n, Yaml.Gives (Yaml.fit a Yaml.depthLimit Shape.spec way n) v :=
      ⟨_, _, _, 0, k, hrun⟩
    exact ⟨Yaml.reading.parameterValues hfits, Yaml.reading.modelValues hfits⟩
  · cases hv

/-- What a description has to have so that it is read back. -/
theorem ofJson_of_rereads
    (hparameters : ∀ v ∈ s.parameterValues,
      Json.fitFree (Json.depthLimit - 6) (.ofValue v) = .ok v)
    (hmodels : ∀ v ∈ s.modelValues, Json.fitFree (Json.depthLimit - 4) (.ofValue v) = .ok v)
    {text : String} (hread : Json.read text = (.ofValue s.toValue, true)) :
    ofJson text = .ok { s with groups := [] } := by
  rw [ofJson, Json.map_eq_ok]
  refine ⟨.object s.readMembers, Json.document_eq_ok.2 ?_, (ofValue_readMembers s).symm⟩
  rw [hread]
  exact ⟨rfl, fit_toValue hparameters hmodels⟩

/-- A description that was loaded, or made ready for rendering after that, is written as a document
that loads as the same description without groups. A description from YAML may be nested too deep
for any JSON document. -/
theorem ofJson_toValue {s t : Spec}
    (hload : (∃ text, ofJson text = .ok s) ∨
      (∃ text, ofYaml text = .ok s) ∧ Json.Parses (Json.compact t.toValue))
    (ht : t = s ∨ ∃ o mode, t = s.postProcess o mode)
    (hfree : ∀ v ∈ t.extensionValues, v.FloatFree) :
    ofJson (Json.compact t.toValue) = .ok { t with groups := [] } ∧
      ofJson (Json.pretty 0 t.toValue) = .ok { t with groups := [] } := by
  have hparameters : t.parameterValues ⊆ s.parameterValues := by
    obtain rfl | ⟨o, mode, rfl⟩ := ht
    · exact List.Subset.refl _
    · exact parameterValues_postProcess o mode s
  have hmodels : t.modelValues = s.modelValues := by
    obtain rfl | ⟨o, mode, rfl⟩ := ht
    · rfl
    · exact modelValues_postProcess o mode s
  have hfreeParameters : ∀ v ∈ t.parameterValues, v.FloatFree :=
    fun v hv => hfree v (List.mem_append_left _ hv)
  have hfreeModels : ∀ v ∈ t.modelValues, v.FloatFree :=
    fun v hv => hfree v (List.mem_append_right _ hv)
  have hcompact := Json.read_compact (floatFree hfree)
  have hrereads : (∀ v ∈ t.parameterValues,
      Json.fitFree (Json.depthLimit - 6) (.ofValue v) = .ok v) ∧
      ∀ v ∈ t.modelValues, Json.fitFree (Json.depthLimit - 4) (.ofValue v) = .ok v := by
    -- a value from JSON stood as deep in its document as it does in the one that is written; one
    -- from YAML may have stood deeper than JSON allows, so that it is read again is taken from `hload`
    obtain ⟨text, hs⟩ | ⟨⟨text, hs⟩, -, hparses⟩ := hload
    · obtain ⟨hp, hm⟩ := ofJson_rereads hs
      exact ⟨fun v hv => hp v (hparameters hv) (hfreeParameters v hv),
        fun v hv => hm v (hmodels ▸ hv) (hfreeModels v hv)⟩
    · obtain ⟨hp, hm⟩ := ofYaml_canonical hs
      rw [hcompact] at hparses
      constructor
      · intro v hv
        obtain ⟨w, hw⟩ := readable_parameterValues hparses v hv
        rwa [Json.eq_of_fitFree_ofValue (hp v (hparameters hv)) (hfreeParameters v hv) hw] at hw
      · intro v hv
        obtain ⟨w, hw⟩ := readable_modelValues hparses v hv
        rwa [Json.eq_of_fitFree_ofValue (hm v (hmodels ▸ hv)) (hfreeModels v hv) hw] at hw
  exact ⟨ofJson_of_rereads hrereads.1 hrereads.2 hcompact,
    ofJson_of_rereads hrereads.1 hrereads.2 (Json.read_pretty (floatFree hfree) 0)⟩

end Spec

/-- A description with a header that a vendor extension hides from the parameters. -/
def tenantOrders : Spec where
  info := ⟨"Orders", none, "1.0"⟩
  operations := [{
    name := ⟨"listOrders"⟩
    method := .get
    path := "/orders"
    summary := none
    description := none
    tags := []
    parameters := [{
      name := ⟨"X-Tenant"⟩
      location := .header
      dataType := "String"
      required := true
      description := none
      isDate := false
      isDateTime := false
      extensions := ⟨[(Parameter.implicitHeaderMark, .bool true)], by decide⟩ }]
    implicitHeaders := []
    responses := []
    returnType := some "List<Order>"
    returnContainer := .none
    imports := .empty
    deprecated := false }]
  models := []
  groups := []

theorem Spec.ofJson_tenantOrders :
    let t := tenantOrders.postProcess Options.default .tag
    ((∃ text, ofJson text = .ok tenantOrders) ∧ ∀ v ∈ t.extensionValues, v.FloatFree) ∧
      ofJson (Json.compact t.toValue) = .ok { t with groups := [] } ∧
      ofJson (Json.pretty 0 t.toValue) = .ok { t with groups := [] } := by
  intro t
  have hfree : ∀ v ∈ tenantOrders.extensionValues, v.FloatFree :=
    List.forall_mem_singleton.2 (.bool true)
  have hafter : ∀ v ∈ t.extensionValues, v.FloatFree := List.forall_mem_singleton.2 (.bool true)
  have hrereads : ∀ v ∈ tenantOrders.parameterValues,
      Json.fitFree (Json.depthLimit - 6) (.ofValue v) = .ok v := by
    intro v hv
    obtain rfl := List.mem_singleton.1 hv
    rfl
  have hloads : ofJson (Json.compact tenantOrders.toValue) = .ok tenantOrders :=
    ofJson_of_rereads hrereads (List.forall_mem_nil _) (Json.read_compact (floatFree hfree))
  exact ⟨⟨⟨_, hloads⟩, hafter⟩,
    ofJson_toValue (.inl ⟨_, hloads⟩) (.inr ⟨Options.default, .tag, rfl⟩) hafter⟩

end SpringScaffold
