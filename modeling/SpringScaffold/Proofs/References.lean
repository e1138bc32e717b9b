import SpringScaffold.Proofs.DtoSuffix

/-! Naming the models changes every type signature of a description by one simultaneous substitution
(`Spec.nameModels_substitutes`). A signature is the sequence of its maximal runs of identifier
characters and of the single characters between them. Each run that is the name of a model becomes
the class name of that model, all other pieces stay, and the result is cut at the same places, so
nothing that was put in is looked at again. -/

namespace SpringScaffold

open Text

/-- A place of a description where a type signature may stand. -/
inductive TypePlace where
  | property (model index : Nat)
  | parameter (operation index : Nat)
  | implicitHeader (operation index : Nat)
  | response (operation index : Nat)
  | returnType (operation : Nat)
  deriving DecidableEq, Repr

/-- The type of part `i` of element `n` of a list, if both are there and a type is declared. -/
def typeOfPart {α β : Type} (l : List α) (parts : α → List β) (type : β → Option String)
    (n i : Nat) : Option String := (l[n]?.bind fun a => (parts a)[i]?).bind type

/-- Changing every part the same way changes its type the same way. -/
theorem typeOfPart_map {α β : Type} {l : List α} {parts : α → List β} {type : β → Option String}
    {f : String → String} {g : α → α} {h : β → β} (hparts : ∀ a, parts (g a) = (parts a).map h)
    (htype : ∀ b, type (h b) = (type b).map f) (n i : Nat) :
    typeOfPart (l.map g) parts type n i = (typeOfPart l parts type n i).map f := by
  rw [typeOfPart, typeOfPart, List.getElem?_map]
  cases l[n]? with
  | none => rfl
  | some a =>
    rw [Option.map_some, Option.bind_some, Option.bind_some, hparts, List.getElem?_map]
    cases (parts a)[i]? with
    | none => rfl
    | some b => exact htype b

namespace Spec

/-- The type signature at a place, if there is such a place and a type is declared there. -/
def typeAt (s : Spec) : TypePlace → Option String
  | .property n i => typeOfPart s.models (·.properties) (fun p => some p.dataType) n i
  | .parameter n i => typeOfPart s.operations (·.parameters) (fun p => some p.dataType) n i
  | .implicitHeader n i =>
    typeOfPart s.operations (·.implicitHeaders) (fun p => some p.dataType) n i
  | .response n i => typeOfPart s.operations (·.responses) (·.dataType) n i
  | .returnType n => s.operations[n]?.bind (·.returnType)

theorem operations_nameModels (o : Options) (s : Spec) :
    (s.nameModels o).operations = s.operations.map (Operation.mapTypes (s.retype o)) := by
  rw [nameModels_eq]

theorem models_nameModels (o : Options) (s : Spec) :
    (s.nameModels o).models = s.models.map (Model.named o.dto (s.retype o)) := by
  rw [nameModels_eq]

/-- Naming the models keeps the places and changes the signature at each of them the same way. -/
theorem typeAt_nameModels (o : Options) (s : Spec) (p : TypePlace) :
    (s.nameModels o).typeAt p = (s.typeAt p).map (s.retype o) := by
  cases p with
  | property n i =>
    rw [typeAt, typeAt, models_nameModels]
    apply typeOfPart_map (h := Property.mapType (s.retype o))
    · exact fun _ => rfl
    · exact fun _ => rfl
  | parameter n i =>
    rw [typeAt, typeAt, operations_nameModels]
    apply typeOfPart_map (h := Parameter.mapType (s.retype o))
    · exact fun _ => rfl
    · exact fun _ => rfl
  | implicitHeader n i =>
    rw [typeAt, typeAt, operations_nameModels]
    apply typeOfPart_map (h := Parameter.mapType (s.retype o))
    · exact fun _ => rfl
    · exact fun _ => rfl
  | response n i =>
    rw [typeAt, typeAt, operations_nameModels]
    apply typeOfPart_map (h := Response.mapType (s.retype o))
    · exact fun _ => rfl
    · exact fun _ => rfl
  | returnType n =>
    rw [typeAt, typeAt, operations_nameModels, List.getElem?_map]
    cases s.operations[n]? <;> rfl

/-- What stands in the place of a piece of a signature, once the models have their class names. -/
inductive Replaces (s : Spec) : Piece → Piece → Prop where
  | reference {m : Model} : m ∈ s.models →
    Replaces s (.run m.name.toList) (.run m.className.toList)
  | word {w : List Char} : (∀ m ∈ s.models, m.name.toList ≠ w) →
    Replaces s (.run w) (.run w)
  | mark (c : Char) : Replaces s (.other c) (.other c)

/-- The second signature has the pieces of the first one, each of them replaced. -/
def Substitutes (s : Spec) (a b : String) : Prop :=
  ∃ ps qs, IsCut Signature.isReference ps ∧ glue ps = a.toList ∧
    IsCut Signature.isReference qs ∧ glue qs = b.toList ∧ List.Forall₂ s.Replaces ps qs

theorem map_names_nameModels (o : Options) (s : Spec) :
    (s.nameModels o).models.map (fun m => (m.name, m.className)) =
      s.models.map fun m => (m.name, Model.classNameOf o.dto m.name) := by
  rw [models_nameModels, List.map_map]
  rfl

theorem onChars_reference_name {s : Spec} {m : Model} (hm : m ∈ s.models) :
    Signature.onChars (s.reference true) m.name.toList = (m.name ++ Model.dtoSuffix).toList := by
  have hname : m.name ∈ s.models.map (·.name) := List.mem_map_of_mem hm
  rw [Signature.onChars, String.ofList_toList, reference, if_pos (by simpa using hname)]

theorem onChars_reference_of_forall_ne {s : Spec} {w : List Char}
    (h : ∀ m ∈ s.models, m.name.toList ≠ w) (dto : Bool) :
    Signature.onChars (s.reference dto) w = w := by
  have hne : ∀ m ∈ s.models, m.name ≠ String.ofList w := by
    intro m hm he
    exact h m hm (by rw [he, String.toList_ofList])
  rw [Signature.onChars, reference_of_forall_ne fun _ => hne, String.toList_ofList]

/-- A run is looked up once: either it is a model's name and becomes the class name, or it stays. -/
theorem replaces_nameModels {o : Options} (ho : o.dto = true) (s : Spec) (p : Piece) :
    (s.nameModels o).Replaces p (p.mapRun (Signature.onChars (s.reference o.dto))) := by
  have hpairs := map_names_nameModels o s
  rw [ho] at hpairs ⊢
  cases p with
  | other c => exact .mark c
  | run w =>
    by_cases hw : ∃ m ∈ s.models, m.name.toList = w
    · obtain ⟨m, hm, rfl⟩ := hw
      have hpair : (m.name, m.name ++ Model.dtoSuffix) ∈
          (s.nameModels o).models.map fun m => (m.name, m.className) := by
        rw [hpairs]
        exact List.mem_map.2 ⟨m, hm, rfl⟩
      obtain ⟨named, hnamed, he⟩ := List.mem_map.1 hpair
      obtain ⟨hname, hclass⟩ := Prod.mk.inj he
      rw [Piece.mapRun, onChars_reference_name hm, ← hclass, ← hname]
      exact .reference hnamed
    · have hstays : ∀ m ∈ s.models, m.name.toList ≠ w := fun m hm he => hw ⟨m, hm, he⟩
      rw [Piece.mapRun, onChars_reference_of_forall_ne hstays]
      refine .word fun named hnamed he => ?_
      have hpair := List.mem_map_of_mem (f := fun m : Model => (m.name, m.className)) hnamed
      rw [hpairs] at hpair
      obtain ⟨m, hm, hsame⟩ := List.mem_map.1 hpair
      exact hstays m hm (by rw [(Prod.mk.inj hsame).1, he])

/-- The pieces of the renamed signature are the replaced pieces: no two of them run together. -/
theorem substitutes_retype {o : Options} (ho : o.dto = true) (s : Spec) (signature : String) :
    (s.nameModels o).Substitutes signature (s.retype o signature) := by
  have hkeeps := (s.suffixing_reference o.dto).keepsRuns
  refine ⟨cut Signature.isReference signature.toList, _, isCut_cut _ _, glue_cut _ _,
    (isCut_cut _ _).mapRun hkeeps, (Signature.toList_substitute _ _).symm, ?_⟩
  rw [List.forall₂_map_right_iff, List.forall₂_same]
  exact fun p _ => replaces_nameModels ho s p

/-- With the suffix, naming the models gives each of them its name and the suffix as class name and
replaces their names in every type signature, all at once. Without it no signature changes. -/
theorem nameModels_substitutes (o : Options) (s : Spec) :
    let suffixed := s.nameModels { o with dto := true }
    let plain := s.nameModels { o with dto := false }
    (suffixed.models.map fun m => (m.name, m.className)) =
        (s.models.map fun m => (m.name, m.name ++ "Dto")) ∧
      (∀ p, Option.Rel suffixed.Substitutes (s.typeAt p) (suffixed.typeAt p)) ∧
      ∀ p, plain.typeAt p = s.typeAt p := by
  refine ⟨map_names_nameModels _ s, fun p => ?_, fun p => ?_⟩
  · rw [typeAt_nameModels]
    cases s.typeAt p with
    | none => exact .none
    | some signature => exact .some (substitutes_retype rfl s signature)
  · rw [typeAt_nameModels, retype_of_dto_eq_false rfl, Option.map_id]
    rfl

example :
    let s : Spec :=
      { (default : Spec) with
        models := [{ (default : Model) with name := "Order" },
          { (default : Model) with name := "OrderDto" }]
        operations := [{ (default : Operation) with returnType := some "Map<Order, OrderDto>" }] }
    (s.nameModels { (default : Options) with dto := true }).typeAt (.returnType 0) =
      some "Map<OrderDto, OrderDtoDto>" := by
  decide

end Spec

end SpringScaffold
