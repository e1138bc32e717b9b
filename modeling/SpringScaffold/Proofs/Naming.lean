import SpringScaffold.Proofs.Normalize

/-! The models get their class names. The dictionary of new names is filled model by model and holds
in the end the class name of each model whose name does not stay (`Spec.find?_renames`). So a
description whose models are named is one that is changed part by part: every model has its class
name, and every type signature is substituted, also where the dictionary is empty and the signatures
are not looked at (`Spec.nameModels_eq`). -/

namespace SpringScaffold

theorem Model.classNameOf_eq_self_iff {dto : Bool} {name : String} :
    classNameOf dto name = name ↔ dto = false := by
  cases dto with
  | false => simp [classNameOf]
  | true =>
    have hne : name ++ dtoSuffix ≠ name := by
      intro he
      have hlength := congrArg String.length he
      rw [String.length_append] at hlength
      exact absurd hlength (by simp [dtoSuffix])
    simp [classNameOf, hne]

namespace Spec

/-- What a reference to a type becomes once the models have their class names. -/
def reference (s : Spec) (dto : Bool) (id : String) : String :=
  if dto && (s.models.map (·.name)).contains id then id ++ Model.dtoSuffix else id

theorem suffixing_reference (s : Spec) (dto : Bool) : Signature.Suffixing (s.reference dto) := by
  intro id
  unfold reference
  split
  · exact .inr rfl
  · exact .inl rfl

theorem reference_of_forall_ne {s : Spec} {dto : Bool} {id : String}
    (h : dto = true → ∀ m ∈ s.models, m.name ≠ id) : s.reference dto id = id := by
  cases dto with
  | false => simp [reference]
  | true =>
    have hid : id ∉ s.models.map (·.name) := by
      intro hm
      obtain ⟨m, hm, he⟩ := List.mem_map.1 hm
      exact h rfl m hm he
    simp [reference, hid]

/-- One model after the other puts its new name into the dictionary, if it has one. -/
theorem find?_foldl_renames (dto : Bool) (ms : List Model) (d : Dictionary String) (id : String) :
    (ms.foldl (fun d m =>
      if Model.classNameOf dto m.name = m.name then d
      else d.insert m.name (Model.classNameOf dto m.name)) d).find? id =
    if dto && (ms.map (·.name)).contains id then some (id ++ Model.dtoSuffix) else d.find? id := by
  induction ms generalizing d with
  | nil => simp
  | cons m ms ih =>
    rw [List.foldl_cons, ih]
    cases dto with
    | false => simp [Model.classNameOf]
    | true =>
      have hne : ¬ Model.classNameOf true m.name = m.name := by
        simp [Model.classNameOf_eq_self_iff]
      rw [if_neg hne, Dictionary.find?_insert]
      by_cases hid : id = m.name
      · simp [hid, Model.classNameOf]
      · simp [hid]

theorem find?_renames (s : Spec) (dto : Bool) (id : String) :
    (s.renames dto).find? id =
      if dto && (s.models.map (·.name)).contains id then some (id ++ Model.dtoSuffix) else none :=
  find?_foldl_renames dto s.models .empty id

theorem newName_renames (s : Spec) (dto : Bool) :
    Signature.newName (s.renames dto) = s.reference dto := by
  funext id
  rw [Signature.newName, find?_renames, reference]
  split <;> rfl

/-- What becomes of a type signature when the models get their class names. -/
def retype (s : Spec) (o : Options) : String → String := Signature.substitute (s.reference o.dto)

theorem rename_renames (o : Options) (s : Spec) :
    Signature.rename (s.renames o.dto) = s.retype o := by
  rw [Signature.rename_eq_substitute, newName_renames, retype]

/-- Without new names every signature stays. -/
theorem retype_of_isEmpty {o : Options} {s : Spec}
    (h : (s.renames o.dto).entries.isEmpty = true) : s.retype o = id := by
  have hnone : Signature.newName (s.renames o.dto) = id := by
    funext id
    rw [Signature.newName, Dictionary.find?, List.isEmpty_iff.1 h]
    rfl
  funext t
  rw [retype, ← newName_renames, hnone, Signature.substitute_id]
  rfl

theorem nameModels_eq (o : Options) (s : Spec) :
    s.nameModels o =
      { s with
        operations := s.operations.map (Operation.mapTypes (s.retype o))
        models := s.models.map (Model.named o.dto (s.retype o)) } := by
  unfold nameModels
  split
  · next hnone =>
    have hoperation : Operation.mapTypes id = id := funext Operation.mapTypes_id
    have hmodel : Model.named o.dto id = fun m =>
        { m with className := Model.classNameOf o.dto m.name } := by
      have hproperty : Property.mapType id = id := rfl
      funext m
      rw [Model.named, hproperty, List.map_id]
    rw [retype_of_isEmpty hnone, hoperation, List.map_id, hmodel, setClassNames]
  · rw [rename_renames, mapSignatures, setClassNames]
    simp only [List.map_map]
    rfl

end Spec

end SpringScaffold
