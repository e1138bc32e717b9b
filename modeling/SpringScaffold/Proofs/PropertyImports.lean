import SpringScaffold.Proofs.Imports
import SpringScaffold.Stage

/-! Which imports the properties of a model add (`Model.annotate_extends`). Each property adds what
it asks for behind what is there, so all of them together add, once each, the identifiers that some
property asks for and that were not there. -/

namespace SpringScaffold

theorem Dictionary.contains_iff {α : Type} {d : Dictionary α} {key : String} :
    d.contains key = true ↔ ∃ value, (key, value) ∈ d.entries := by
  rw [contains, find?, ← Bool.not_eq_false, Option.isSome_eq_false_iff, Option.isNone_iff_eq_none,
    List.lookup_eq_none_iff]
  simp

theorem ImportSet.exists_added (s : ImportSet) (ids : List String) :
    ∃ added, (s.insertAll ids).ids = s.ids ++ added ∧
      ∀ id, id ∈ added ↔ id ∉ s ∧ id ∈ ids := by
  obtain ⟨added, hadded⟩ := s.ids_prefix_insertAll ids
  have hdistinct := (s.insertAll ids).nodup
  rw [← hadded, List.nodup_append] at hdistinct
  have hmem : ∀ id, (id ∈ s ∨ id ∈ added) ↔ id ∈ s ∨ id ∈ ids := by
    intro id
    calc
      id ∈ s ∨ id ∈ added ↔ id ∈ s.insertAll ids := by
        rw [mem_def, mem_def, ← hadded, List.mem_append]
      _ ↔ id ∈ s ∨ id ∈ ids := mem_insertAll
  refine ⟨added, hadded.symm, fun id => ?_⟩
  constructor
  · intro hid
    have hnew : id ∉ s := fun hs => hdistinct.2.2 id hs id hid rfl
    exact ⟨hnew, ((hmem id).1 (.inr hid)).resolve_left hnew⟩
  · rintro ⟨hnew, hid⟩
    exact ((hmem id).2 (.inr hid)).resolve_left hnew

namespace Model

/-- The model has to import an identifier, because of its properties. -/
inductive Requires (o : Options) (m : Model) : String → Prop where
  | temporal {p : Property} (hp : p ∈ m.properties) (h : p.isDate = true ∨ p.isDateTime = true) :
    Requires o m "DateTimeFormat"
  | property (hp : m.properties ≠ []) (h : m.isEnum = false) : Requires o m "JsonProperty"
  | nestedEnum (hp : m.properties ≠ []) (h : m.isEnum = false) (hnested : m.hasEnums = true) :
    Requires o m "JsonValue"
  | enumeration (hp : m.properties ≠ []) (h : m.isEnum = true)
    (hlibrary : o.serialization = .jackson) : Requires o m "JsonCreator"
  | byteArray {p : Property} (hp : p ∈ m.properties) (h : p.isByteArray = true) :
    Requires o m "Arrays"
  | nullableHelpers {value : Value} (hp : m.properties ≠ [])
    (h : ("x-jackson-optional-nullable-helpers", value) ∈ m.extensions.entries) :
    Requires o m "Arrays"

section Property

variable {o : Options} {m : Model} {id : String}

theorem mem_importsFor {p : Property} :
    id ∈ m.importsFor o p ↔
      (p.isTemporal = true ∧ id = ImportId.dateTimeFormat) ∨
      (m.isEnum = false ∧
        (id = ImportId.jsonProperty ∨ m.hasEnums = true ∧ id = ImportId.jsonValue)) ∨
      (m.isEnum = true ∧ o.serialization = .jackson ∧ id = ImportId.jsonCreator) ∨
      ((p.isByteArray = true ∨ m.extensions.contains nullableHelpers = true) ∧
        id = ImportId.arrays) := by
  unfold importsFor
  cases m.isEnum <;> cases m.hasEnums <;> cases p.isTemporal <;> simp [or_assoc]

theorem requires_of_mem_importsFor {p : Property} (hp : p ∈ m.properties)
    (h : id ∈ m.importsFor o p) : m.Requires o id := by
  have hne : m.properties ≠ [] := List.ne_nil_of_mem hp
  rcases mem_importsFor.1 h with
    ⟨ht, rfl⟩ | ⟨henum, rfl | ⟨hnested, rfl⟩⟩ | ⟨henum, hlibrary, rfl⟩ | ⟨hbytes | hkey, rfl⟩
  · exact .temporal hp (by simpa [Property.isTemporal] using ht)
  · exact .property hne henum
  · exact .nestedEnum hne henum hnested
  · exact .enumeration hne henum hlibrary
  · exact .byteArray hp hbytes
  · obtain ⟨value, hvalue⟩ := Dictionary.contains_iff.1 hkey
    exact .nullableHelpers hne hvalue

/-- What the model has to import is asked for by one of its properties. -/
theorem Requires.exists_mem (h : m.Requires o id) :
    ∃ p ∈ m.properties, id ∈ m.importsFor o p := by
  have hany : m.properties ≠ [] → ∃ p, p ∈ m.properties := List.exists_mem_of_ne_nil _
  cases h with
  | @temporal p hp h =>
    exact ⟨p, hp, mem_importsFor.2 (.inl ⟨by simpa [Property.isTemporal] using h, rfl⟩)⟩
  | property hne h =>
    obtain ⟨p, hp⟩ := hany hne
    exact ⟨p, hp, mem_importsFor.2 (.inr (.inl ⟨h, .inl rfl⟩))⟩
  | nestedEnum hne h hnested =>
    obtain ⟨p, hp⟩ := hany hne
    exact ⟨p, hp, mem_importsFor.2 (.inr (.inl ⟨h, .inr ⟨hnested, rfl⟩⟩))⟩
  | enumeration hne h hlibrary =>
    obtain ⟨p, hp⟩ := hany hne
    exact ⟨p, hp, mem_importsFor.2 (.inr (.inr (.inl ⟨h, hlibrary, rfl⟩)))⟩
  | @byteArray p hp h => exact ⟨p, hp, mem_importsFor.2 (.inr (.inr (.inr ⟨.inl h, rfl⟩)))⟩
  | nullableHelpers hne h =>
    obtain ⟨p, hp⟩ := hany hne
    have hkey : m.extensions.contains Model.nullableHelpers = true :=
      Dictionary.contains_iff.2 ⟨_, h⟩
    exact ⟨p, hp, mem_importsFor.2 (.inr (.inr (.inr ⟨.inr hkey, rfl⟩)))⟩

theorem requires_iff : m.Requires o id ↔ id ∈ m.properties.flatMap (m.importsFor o) := by
  rw [List.mem_flatMap]
  constructor
  · exact Requires.exists_mem
  · rintro ⟨p, hp, hid⟩
    exact requires_of_mem_importsFor hp hid

end Property

/-- Annotating a model puts behind its imports, once each, what it has to import and did not import
yet. The order of the properties does not matter for what is imported, and without properties
nothing changes. -/
theorem annotate_extends (o : Options) (m : Model) :
    (∃ added, (m.annotate o).imports.ids = m.imports.ids ++ added ∧
      ∀ id, id ∈ added ↔ id ∉ m.imports ∧ m.Requires o id) ∧
    (m.annotate o).imports.ids.Nodup ∧
    (∀ properties : List Property, properties.Perm m.properties →
      ∀ id, id ∈ (annotate o { m with properties := properties }).imports ↔
        id ∈ (m.annotate o).imports) ∧
    (m.properties = [] → m.annotate o = m) := by
  refine ⟨?_, (m.annotate o).imports.nodup, ?_, ?_⟩
  · obtain ⟨added, hids, hadded⟩ := m.imports.exists_added (m.properties.flatMap (m.importsFor o))
    refine ⟨added, hids, fun id => ?_⟩
    rw [hadded, requires_iff]
  · intro properties hperm id
    have hrequests : (properties.flatMap (m.importsFor o)).Perm
        (m.properties.flatMap (m.importsFor o)) := hperm.flatMap_right _
    rw [annotate, annotate, ImportSet.mem_insertAll, ImportSet.mem_insertAll]
    exact or_congr_right hrequests.mem_iff
  · intro hnone
    rw [annotate, hnone]
    obtain ⟨_, _, _, _, _, _, _, _, _⟩ := m
    cases hnone
    rfl

theorem annotate_extends_payload :
    let payload : Property := { (default : Property) with isByteArray := true, isDate := true }
    let m : Model :=
      { (default : Model) with
        properties := [default, payload], imports := .ofList ["UUID", "JsonProperty"] }
    m.properties.reverse.Perm m.properties ∧
      (m.annotate .default).imports.ids = ["UUID", "JsonProperty", "DateTimeFormat", "Arrays"] ∧
      (annotate .default { m with properties := m.properties.reverse }).imports.ids =
        ["UUID", "JsonProperty", "DateTimeFormat", "Arrays"] ∧
      ∀ id, id ∈ (annotate .default { m with properties := m.properties.reverse }).imports ↔
        id ∈ (m.annotate .default).imports := by
  intro payload m
  have hperm : m.properties.reverse.Perm m.properties := List.reverse_perm _
  exact ⟨hperm, by decide, by decide, (annotate_extends .default m).2.2.1 _ hperm⟩

end Model

end SpringScaffold
