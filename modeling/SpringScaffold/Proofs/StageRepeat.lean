import SpringScaffold.Proofs.StageOrder

/-! Running all stages on their own result. The names come first in the second run too, but they
commute with everything, so the second run is a second pass of each stage by itself: renamed
references are no model's raw name any more, a type that was split has its container, and what the
imports ask for is there already. -/

namespace SpringScaffold

namespace Operation

/-- All stages, for one operation. -/
def processed (f : String → String) (o : Operation) : Operation :=
  (o.mapTypes f).addImports.normalize

@[simp] theorem tags_processed (f : String → String) (o : Operation) :
    (o.processed f).tags = o.tags := by
  simp [processed]

@[simp] theorem path_processed (f : String → String) (o : Operation) :
    (o.processed f).path = o.path := by
  simp [processed]

theorem processed_processed {f : String → String} (hf : Signature.Suffixing f)
    (hvoid : f Signature.void = Signature.void)
    (htwice : ∀ t, Signature.substitute f (Signature.substitute f t) = Signature.substitute f t)
    (o : Operation) :
    (o.processed (Signature.substitute f)).processed (Signature.substitute f) =
      o.processed (Signature.substitute f) := by
  have hnames : (o.processed (Signature.substitute f)).mapTypes (Signature.substitute f) =
      o.processed (Signature.substitute f) := by
    rw [processed, ← normalize_mapTypes hf hvoid, ← addImports_mapTypes, mapTypes_mapTypes htwice]
  calc
    (o.processed (Signature.substitute f)).processed (Signature.substitute f) =
        (o.processed (Signature.substitute f)).addImports.normalize := by rw [processed, hnames]
    _ = (o.processed (Signature.substitute f)).normalize := by
      rw [processed, addImports_normalize_addImports]
    _ = o.processed (Signature.substitute f) := normalize_normalize _

end Operation

namespace Model

/-- All stages, for one model. -/
def processed (o : Options) (f : String → String) (m : Model) : Model :=
  (m.named o.dto f).annotate o

theorem processed_processed (o : Options) {f : String → String} (htwice : ∀ t, f (f t) = f t)
    (m : Model) : (m.processed o f).processed o f = m.processed o f := by
  rw [processed, processed, ← annotate_named, named_named htwice, annotate_annotate]

end Model

namespace Spec

theorem postProcess_eq (o : Options) (mode : GroupBy) (s : Spec) :
    s.postProcess o mode =
      { info := s.info
        operations := s.operations.map (Operation.processed (s.retype o))
        models := s.models.map (Model.processed o (s.retype o))
        groups := s.groupOperations mode } := by
  rw [postProcess, runStages_eq, if_pos (by decide)]
  rfl

/-- A reference that got the suffix is not renamed again, because no model carries that name. -/
theorem reference_reference {s : Spec} {dto : Bool}
    (h : dto = true → ∀ m ∈ s.models, ∀ n ∈ s.models, n.name ≠ m.name ++ Model.dtoSuffix)
    (id : String) : s.reference dto (s.reference dto id) = s.reference dto id := by
  by_cases hid : (dto && (s.models.map (·.name)).contains id) = true
  · have hsuffixed : s.reference dto id = id ++ Model.dtoSuffix := if_pos hid
    rw [hsuffixed]
    apply reference_of_forall_ne
    intro hdto n hn
    obtain ⟨m, hm, rfl⟩ : ∃ m ∈ s.models, m.name = id := by simpa [hdto] using hid
    exact h hdto m hm n hn
  · have hsame : s.reference dto id = id := if_neg hid
    rw [hsame, hsame]

/-- Running all stages again changes nothing, provided that with suffixed class names no model is
named like the void type or like another model's class. -/
theorem postProcess_idempotent (o : Options) (mode : GroupBy) (s : Spec)
    (h : o.dto = true → (∀ m ∈ s.models, m.name ≠ Signature.void) ∧
      ∀ m ∈ s.models, ∀ n ∈ s.models, n.name ≠ m.name ++ Model.dtoSuffix) :
    (s.postProcess o mode).postProcess o mode = s.postProcess o mode := by
  have hf := s.suffixing_reference o.dto
  have hvoid : s.reference o.dto Signature.void = Signature.void :=
    reference_of_forall_ne fun hdto => (h hdto).1
  have htwice : ∀ t, s.retype o (s.retype o t) = s.retype o t := by
    intro t
    rw [retype, Signature.substitute_substitute hf]
    congr 1
    funext id
    exact reference_reference (fun hdto => (h hdto).2) id
  have hprocessed := postProcess_eq o mode s
  have hretype : (s.postProcess o mode).retype o = s.retype o := by
    apply retype_congr
    rw [hprocessed, List.map_map]
    rfl
  have hgroups : (s.postProcess o mode).groupOperations mode = s.groupOperations mode :=
    groupOperations_congr (by rw [hprocessed]) (Operation.tags_processed _)
      (Operation.path_processed _) mode
  have hoperations : Operation.processed (s.retype o) ∘ Operation.processed (s.retype o) =
      Operation.processed (s.retype o) :=
    funext (Operation.processed_processed hf hvoid htwice)
  have hmodels : Model.processed o (s.retype o) ∘ Model.processed o (s.retype o) =
      Model.processed o (s.retype o) :=
    funext (Model.processed_processed o htwice)
  rw [postProcess_eq o mode (s.postProcess o mode), hretype, hgroups, hprocessed]
  simp only [List.map_map, hoperations, hmodels]

theorem postProcess_orderList_twice :
    let o : Options := { Options.default with dto := true }
    ((∀ m ∈ orderList.models, m.name ≠ Signature.void) ∧
      ∀ m ∈ orderList.models, ∀ n ∈ orderList.models, n.name ≠ m.name ++ Model.dtoSuffix) ∧
    (orderList.postProcess o .tag).postProcess o .tag = orderList.postProcess o .tag :=
  ⟨by decide, postProcess_idempotent _ _ _ fun _ => by decide⟩

end Spec

end SpringScaffold
