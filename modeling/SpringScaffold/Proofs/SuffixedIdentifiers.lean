import SpringScaffold.Proofs.MappedImports
import SpringScaffold.Proofs.References

/-! The identifiers that an import list finds once the models have their class names. The renaming
takes `$` for a part of an identifier and an import list does not, so an import list cuts every
reference of a renamed signature once more (`Signature.identifiers_substitute`). In a signature
without `$` both see the same identifiers. The renamed signature holds them in the same order, and
those that are names of models have the suffix (`Spec.identifiers_nameModels`). -/

namespace SpringScaffold

open Text

namespace Signature

variable {f : String → String} {s : String}

/-- The identifiers of a signature in order, as the renaming takes them. -/
def references (s : String) : List String := (runs isReference s.toList).map String.ofList

theorem references_substitute (hf : Suffixing f) (s : String) :
    references (substitute f s) = (references s).map f := by
  rw [references, toList_substitute, runs_mapRuns hf.keepsRuns, references, List.map_map,
    List.map_map]
  apply List.map_congr_left
  intro w _
  simp [onChars]

/-- Whatever is no reference separates the identifiers of an import list too. -/
theorem flatMap_identifiers_references (s : String) :
    (references s).flatMap identifiers = identifiers s := by
  have hwide : ∀ c, isImportable c = true → isReference c = true := by
    intro c hc
    rw [isReference, hc, Bool.true_or]
  rw [identifiers_eq, ← flatMap_runs hwide, List.map_flatMap, references, List.flatMap_map]
  simp [identifiers_eq]

theorem identifiers_substitute (hf : Suffixing f) (s : String) :
    identifiers (substitute f s) = (references s).flatMap fun id => identifiers (f id) := by
  rw [← flatMap_identifiers_references, references_substitute hf, List.flatMap_map]

/-- The suffix of a name with `$` gets behind the last identifier of that name only. -/
example :
    identifiers (rename (.ofList [("Outer$Order", "Outer$OrderDto")]) "List<Outer$Order>") =
      ["List", "Outer", "OrderDto"] := by
  decide

theorem isRun_of_mem_references (hs : '$' ∉ s.toList) {id : String} (h : id ∈ references s) :
    IsRun isImportable id.toList := by
  obtain ⟨w, hw, rfl⟩ := List.mem_map.1 h
  obtain ⟨hne, hkept⟩ := isRun_of_mem_runs hw
  rw [String.toList_ofList]
  refine ⟨hne, fun c hc => ?_⟩
  have hother : c ≠ '$' := by
    rintro rfl
    exact hs (subset_of_mem_runs hw hc)
  simpa [isReference, hother] using hkept c hc

theorem identifiers_of_isRun {id : String} (h : IsRun isImportable id.toList) :
    identifiers id = [id] := by
  rw [identifiers_eq, runs_of_isRun h, List.map_singleton, String.ofList_toList]

theorem references_eq_identifiers (hs : '$' ∉ s.toList) : references s = identifiers s := by
  have hone : ∀ id ∈ references s, identifiers id = [id] :=
    fun id hid => identifiers_of_isRun (isRun_of_mem_references hs hid)
  rw [← flatMap_identifiers_references, List.flatMap_congr hone, List.flatMap_singleton']

/-- The suffix holds no separator, so a reference stays one identifier. -/
theorem identifiers_substitute_of_notMem (hf : Suffixing f) (hs : '$' ∉ s.toList) :
    identifiers (substitute f s) = (identifiers s).map f := by
  have hone : ∀ id ∈ references s, identifiers (f id) = [f id] := by
    intro id hid
    have hrun := hf.isRun (by decide) (isRun_of_mem_references hs hid)
    rw [onChars, String.ofList_toList] at hrun
    exact identifiers_of_isRun hrun
  rw [identifiers_substitute hf, List.flatMap_congr hone, ← List.map_eq_flatMap,
    references_eq_identifiers hs]

end Signature

theorem Java.mem_importIds {m : ImportMapping} {base : ImportSet} {signatures : List String}
    {id : String} :
    id ∈ importIds m base signatures ↔ id ∈ base ∨
      (∃ signature ∈ signatures, Signature.Mentions signature id) ∧ (m.resolve id).isSome := by
  rw [importIds, ImportSet.mem_insertAll, List.mem_filter, List.mem_flatMap]
  simp only [Signature.mem_identifiers_iff]

namespace Spec

theorem reference_true (s : Spec) :
    s.reference true = fun id => if id ∈ s.models.map (·.name) then id ++ "Dto" else id := by
  funext id
  simp [reference, Model.dtoSuffix]

/-- An import list finds the identifiers of the declared signature, renamed one by one. -/
theorem identifiers_retype {o : Options} (ho : o.dto = true) (s : Spec) {signature : String}
    (hs : '$' ∉ signature.toList) :
    Signature.identifiers (s.retype o signature) = (Signature.identifiers signature).map fun id =>
      if id ∈ s.models.map (·.name) then id ++ "Dto" else id := by
  rw [retype, ho, Signature.identifiers_substitute_of_notMem (s.suffixing_reference true) hs,
    reference_true]

theorem exists_mentions_of_retype {o : Options} (ho : o.dto = true) {s : Spec}
    {signature id : String} (hs : '$' ∉ signature.toList)
    (h : Signature.Mentions (s.retype o signature) id) :
    ∃ whole, Signature.Mentions signature whole ∧
      (id = whole ∨ whole ∈ s.models.map (·.name) ∧ id = whole ++ "Dto") := by
  rw [← Signature.mem_identifiers_iff, identifiers_retype ho s hs] at h
  obtain ⟨whole, hwhole, rfl⟩ := List.mem_map.1 h
  refine ⟨whole, Signature.mem_identifiers_iff.1 hwhole, ?_⟩
  by_cases hname : whole ∈ s.models.map (·.name)
  · rw [if_pos hname]
    exact .inr ⟨hname, rfl⟩
  · rw [if_neg hname]
    exact .inl rfl

/-- Naming the models with the suffix keeps the identifiers that an import list finds in a signature
without `$`, in their order, and puts the suffix behind those that are names of models. So whatever
is collected from such signatures is given, or it stands as a whole identifier in a signature as it
was declared, with or without the suffix. -/
theorem identifiers_nameModels (o : Options) (s : Spec) :
    let suffixed := s.nameModels { o with dto := true }
    (∀ p signature, s.typeAt p = some signature → '$' ∉ signature.toList →
        ∃ renamed, suffixed.typeAt p = some renamed ∧
          Signature.identifiers renamed = (Signature.identifiers signature).map fun id =>
            if id ∈ s.models.map (·.name) then id ++ "Dto" else id) ∧
      ∀ (m : ImportMapping) (base : ImportSet) (places : List TypePlace),
        (∀ p ∈ places, ∀ signature ∈ s.typeAt p, '$' ∉ signature.toList) →
        ∀ id ∈ Java.importIds m base (places.filterMap suffixed.typeAt), id ∈ base ∨
          ∃ p ∈ places, ∃ signature ∈ s.typeAt p, ∃ whole, Signature.Mentions signature whole ∧
            (id = whole ∨ whole ∈ s.models.map (·.name) ∧ id = whole ++ "Dto") := by
  intro suffixed
  have hat : ∀ p, suffixed.typeAt p = (s.typeAt p).map (s.retype { o with dto := true }) :=
    fun p => typeAt_nameModels _ s p
  constructor
  · intro p signature hp hs
    refine ⟨s.retype { o with dto := true } signature, ?_, identifiers_retype rfl s hs⟩
    rw [hat, hp, Option.map_some]
  · intro m base places hplain id hid
    rcases Java.mem_importIds.1 hid with hbase | ⟨⟨renamed, hrenamed, hmentions⟩, -⟩
    · exact .inl hbase
    · right
      obtain ⟨p, hp, hplace⟩ := List.mem_filterMap.1 hrenamed
      rw [hat] at hplace
      obtain ⟨signature, hsignature, rfl⟩ := Option.map_eq_some_iff.1 hplace
      exact ⟨p, hp, signature, hsignature,
        exists_mentions_of_retype rfl (hplain p hp signature hsignature) hmentions⟩

theorem identifiers_nameModels_orders :
    let s : Spec :=
      { (default : Spec) with
        models := [{ (default : Model) with name := "Order" },
          { (default : Model) with name := "OrderDto" }]
        operations := [{ (default : Operation) with
          returnType := some "Map<UUID, List<Order>>"
          parameters := [{ (default : Parameter) with dataType := "OrderDto[]" }] }] }
    let suffixed := s.nameModels { (default : Options) with dto := true }
    let m : ImportMapping := .withOverrides [("OrderDto", "acme.OrderDto")]
    let places : List TypePlace := [.returnType 0, .parameter 0 0]
    (∀ p ∈ places, ∀ signature ∈ s.typeAt p, '$' ∉ signature.toList) ∧
      (∃ renamed, suffixed.typeAt (.returnType 0) = some renamed ∧
        Signature.identifiers renamed = ["Map", "UUID", "List", "OrderDto"]) ∧
      (∃ renamed, suffixed.typeAt (.parameter 0 0) = some renamed ∧
        Signature.identifiers renamed = ["OrderDtoDto"]) ∧
      "OrderDto" ∈ Java.importIds m .empty (places.filterMap suffixed.typeAt) ∧
      ("OrderDto" ∈ ImportSet.empty ∨
        ∃ p ∈ places, ∃ signature ∈ s.typeAt p, ∃ whole, Signature.Mentions signature whole ∧
          ("OrderDto" = whole ∨ whole ∈ ["Order", "OrderDto"] ∧ "OrderDto" = whole ++ "Dto")) := by
  intro s suffixed m places
  have hplain : ∀ p ∈ places, ∀ signature ∈ s.typeAt p, '$' ∉ signature.toList := by decide
  have hcollected : "OrderDto" ∈ Java.importIds m .empty (places.filterMap suffixed.typeAt) := by
    decide
  obtain ⟨hfound, hwhole⟩ := identifiers_nameModels default s
  exact ⟨hplain, hfound (.returnType 0) _ rfl (by decide),
    hfound (.parameter 0 0) _ rfl (by decide), hcollected,
    hwhole m .empty places hplain _ hcollected⟩

end Spec

end SpringScaffold
