import Mathlib.Data.List.Nodup
import SpringScaffold.Config
import SpringScaffold.Java.Imports
import SpringScaffold.Proofs.Imports
import SpringScaffold.Proofs.Runs

/-! The names that a file takes from the mapping (`Java.isImportList_collectImports`). They are the
names of the identifiers that are given and of those that some signatures mention, in the order in
which the identifiers first come. Identifiers without a name drop out before the set is made or
after it, which makes no difference. -/

namespace SpringScaffold

open Text Java

/-! ### First occurrences -/

/-- Leaving elements out does not change which of the others come first. -/
theorem eraseDups_filter (keep : String → Bool) (l : List String) :
    (l.filter keep).eraseDups = l.eraseDups.filter keep := by
  induction hn : l.length using Nat.strongRecOn generalizing l with
  | ind n ih =>
    cases l with
    | nil => rfl
    | cons a l =>
      have hshorter : (l.filter fun b => !b == a).length < n := by
        rw [← hn, List.length_cons]
        exact Nat.lt_succ_of_le (List.length_filter_le _ _)
      have hrest := ih _ hshorter (l.filter fun b => !b == a) rfl
      rw [List.filter_filter] at hrest
      rw [List.eraseDups_cons, List.filter_cons, List.filter_cons]
      cases ha : keep a with
      | true =>
        simp only [if_true, List.eraseDups_cons, List.filter_filter, ← hrest, Bool.and_comm]
      | false =>
        have hne : ∀ b, (keep b && !b == a) = keep b := by
          intro b
          by_cases hb : b = a
          · simp [hb, ha]
          · simp [hb]
        simp only [hne] at hrest
        simpa using hrest

/-- Only elements that have a value count. -/
theorem filterMap_eraseDups {α : Type} {f : String → Option α} {l k : List String}
    (h : l.filter (fun id => (f id).isSome) = k.filter (fun id => (f id).isSome)) :
    l.eraseDups.filterMap f = k.eraseDups.filterMap f := by
  have hkept : ∀ l : List String,
      l.eraseDups.filterMap f = (l.filter fun id => (f id).isSome).eraseDups.filterMap f := by
    intro l
    rw [eraseDups_filter, List.filterMap_filter]
    congr 1
    funext id
    cases f id <;> rfl
  rw [hkept l, h, ← hkept k]

/-! ### Names of identifiers -/

theorem Dictionary.find?_foldl_insert {α : Type} {l : List (String × α)}
    (hl : (l.map (·.1)).Nodup) (d : Dictionary α) (key : String) :
    (l.foldl (fun d (k, v) => d.insert k v) d).find? key = (l.lookup key).or (d.find? key) := by
  induction l generalizing d with
  | nil => rfl
  | cons e rest ih =>
    obtain ⟨k, v⟩ := e
    rw [List.map_cons, List.nodup_cons] at hl
    rw [List.foldl_cons, ih hl.2, find?_insert, List.lookup_cons]
    by_cases hkey : key = k
    · -- A later entry would win, but none has this key.
      have hlater : rest.lookup key = none := by
        rw [List.lookup_eq_none_iff]
        intro e he
        have hne : key ≠ e.1 := by
          intro heq
          refine hl.1 ?_
          rw [← hkey, heq]
          exact List.mem_map.2 ⟨e, he, rfl⟩
        simpa using hne
      rw [hlater, if_pos hkey, hkey, beq_self_eq_true]
      rfl
    · rw [if_neg hkey, beq_false_of_ne hkey]

/-- The name of an import identifier: the project's own settings come first, then the defaults. -/
def Config.importName? (c : Config) (id : String) : Option String :=
  (c.importMappings.find? id).or (ImportMapping.defaults.lookup id)

theorem Config.resolve_mapping (c : Config) : c.mapping.resolve = c.importName? := by
  funext id
  have hdefaults : (ImportMapping.defaults.map (·.1)).Nodup := by decide
  rw [mapping, ImportMapping.withOverrides, ImportMapping.resolve, Dictionary.ofList,
    List.foldl_append, Dictionary.find?_foldl_insert c.importMappings.nodup,
    Dictionary.find?_foldl_insert hdefaults]
  simp [importName?, Dictionary.find?, Dictionary.empty]

theorem Config.importName?_injective {c : Config} (hown : c.importMappings.entries = [])
    {id other name : String} (h : c.importName? id = some name)
    (hother : c.importName? other = some name) : id = other := by
  have hdistinct : ∀ e ∈ ImportMapping.defaults, ∀ f ∈ ImportMapping.defaults,
      e.2 = f.2 → e.1 = f.1 := by decide
  have hmem : ∀ {id}, c.importName? id = some name → (id, name) ∈ ImportMapping.defaults := by
    intro id h
    rw [importName?, Dictionary.find?, hown, List.lookup_nil, Option.none_or,
      List.lookup_eq_some_iff] at h
    obtain ⟨before, after, he, -⟩ := h
    simp [he]
  exact hdistinct _ (hmem h) _ (hmem hother) rfl

/-! ### Import lists -/

namespace Signature

theorem identifiers_eq (signature : String) :
    identifiers signature = (runs isImportable signature.toList).map String.ofList := by
  rw [identifiers, filter_splitWhere]

/-- The signature mentions the identifier as a whole. -/
def Mentions (signature id : String) : Prop := StandsIn isImportable id.toList signature.toList

theorem mem_identifiers_iff {signature id : String} :
    id ∈ identifiers signature ↔ Mentions signature id := by
  rw [identifiers_eq, Mentions, ← mem_runs_iff, List.mem_map]
  constructor
  · rintro ⟨w, hw, rfl⟩
    rwa [String.toList_ofList]
  · intro h
    exact ⟨_, h, String.ofList_toList⟩

end Signature

namespace Java

/-- Leaving out the unknown identifiers of the signatures before they are collected changes nothing,
since all that are unknown are left out in the end. -/
theorem collectImports_ofList (c : Config) (given signatures : List String) :
    collectImports c.mapping (.ofList given) signatures =
      (given ++ signatures.flatMap Signature.identifiers).eraseDups.filterMap c.importName? := by
  rw [collectImports, ImportMapping.qualify, importIds, ImportSet.ofList,
    ← ImportSet.insertAll_append, ImportSet.ids_insertAll, Config.resolve_mapping]
  refine filterMap_eraseDups ?_
  simp [ImportSet.empty, List.filter_append, List.filter_filter]

example :
    collectImports (.withOverrides [("UUID", "acme.Key")]) (.ofList ["DateTimeFormat"])
      ["Map<String, List<Order>>", "List<UUID>"] =
    ["org.springframework.format.annotation.DateTimeFormat", "java.util.Map", "java.util.List",
      "acme.Key"] := by
  decide

end Java

/-- The identifiers that the signature mentions, one after the other. -/
def Signature.Holds (signature : String) (ids : List String) : Prop :=
  HasRuns isImportable (ids.map String.toList) signature.toList

theorem Signature.holds_identifiers (signature : String) :
    Holds signature (identifiers signature) := by
  rw [Holds, identifiers_eq, List.map_map, hasRuns_iff]
  simp

/-- The names that a file takes from the mapping, given some identifiers and the signatures in the
file. -/
structure IsImportList (c : Config) (given signatures names : List String) : Prop where
  mem_iff : ∀ name, name ∈ names ↔ ∃ id,
    (id ∈ given ∨ ∃ signature ∈ signatures, Signature.Mentions signature id)
      ∧ c.importName? id = some name
  /-- The names stand in the order in which their identifiers first come. -/
  ordered : ∃ found, List.Forall₂ Signature.Holds signatures found ∧
    names = (given ++ found.flatten).eraseDups.filterMap c.importName?
  nodup : c.importMappings.entries = [] → names.Nodup

theorem Java.isImportList_collectImports (c : Config) (given signatures : List String) :
    IsImportList c given signatures (collectImports c.mapping (.ofList given) signatures) where
  mem_iff name := by
    simp only [collectImports_ofList, List.mem_filterMap, List.mem_eraseDups, List.mem_append,
      List.mem_flatMap, Signature.mem_identifiers_iff]
  ordered := by
    refine ⟨signatures.map Signature.identifiers, ?_, ?_⟩
    · rw [List.forall₂_map_right_iff, List.forall₂_same]
      exact fun signature _ => Signature.holds_identifiers signature
    · rw [collectImports_ofList, List.flatMap_def]
  nodup hown := by
    rw [collectImports_ofList]
    refine List.Nodup.filterMap ?_ (nodup_eraseDups _)
    intro id other name hid hother
    exact Config.importName?_injective hown hid hother

namespace Container

/-- The identifier that a container is imported by. -/
def importId? : Container → Option String
  | .none => Option.none
  | .list => some "List"
  | .map => some "Map"
  | .set => some "Set"

variable {k : Container} {id : String}

theorem isRun_importId (h : id ∈ k.importId?) : IsRun Signature.isImportable id.toList := by
  have hne : id.toList ≠ [] := by cases k <;> cases h <;> decide
  have hkept : id.toList.all Signature.isImportable = true := by cases k <;> cases h <;> decide
  exact ⟨hne, List.all_eq_true.1 hkept⟩

theorem exists_wrap_eq (h : id ∈ k.importId?) (base : String) :
    ∃ rest, Signature.wrap base k = id ++ "<" ++ rest := by
  cases k <;> cases h
  · exact ⟨base ++ ">", by simp [Signature.wrap, String.append_assoc]⟩
  · exact ⟨"String, " ++ base ++ ">", by simp [Signature.wrap, ← String.append_assoc]⟩
  · exact ⟨base ++ ">", by simp [Signature.wrap, String.append_assoc]⟩

/-- A type that was put back into its container mentions it. -/
theorem mentions_wrap (h : id ∈ k.importId?) (base : String) :
    Signature.Mentions (Signature.wrap base k) id := by
  obtain ⟨rest, hrest⟩ := exists_wrap_eq h base
  have hstop : Signature.isImportable '<' = false := by decide
  exact ⟨[], '<' :: rest.toList, by simp [hrest], isRun_importId h, by simp, by simpa using hstop⟩

theorem exists_importName (h : id ∈ k.importId?) (c : Config) :
    ∃ name, c.importName? id = some name := by
  have hdefault : (ImportMapping.defaults.lookup id).isSome := by
    cases k <;> cases h <;> decide
  rw [← Option.isSome_iff_exists, Config.importName?, Option.isSome_or, hdefault, Bool.or_true]

end Container

end SpringScaffold
