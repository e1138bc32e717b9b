import SpringScaffold.Proofs.Grouping
import SpringScaffold.Proofs.Runs

/-! Separators do not matter for names (`Spec.separators_immaterial`). The sanitizer writes two
texts with the same runs of letters and numbers in different ways, but the words of a name are read
off the runs alone. So names with the same runs have the same casings, and operations whose keys
have the same runs share their group. -/

namespace SpringScaffold

open Text

namespace Name

/-- The two names hold the same runs of letters and numbers. -/
def SameRuns (m n : Name) : Prop :=
  ∃ ws, HasRuns isAlphanumeric ws m.written.toList ∧ HasRuns isAlphanumeric ws n.written.toList

/-- The two names are the same in every casing. -/
structure SameCasings (m n : Name) : Prop where
  pascal : m.pascal = n.pascal
  camel : m.camel = n.camel
  snake : m.snake = n.snake
  shouty : m.shouty = n.shouty

/-- Where there are no letters and numbers there is no run either, so both texts get the default
name or none of them does. -/
theorem wordsOf_congr {cs ds : List Char} (h : runs isAlphanumeric cs = runs isAlphanumeric ds) :
    wordsOf cs = wordsOf ds := by
  have hfilter : cs.filter isAlphanumeric = ds.filter isAlphanumeric := by
    rw [← flatten_runs, h, flatten_runs]
  rw [wordsOf, wordsOf, runs_sanitize, runs_sanitize, hfilter, h]

theorem sameCasings_of_wordsOf_eq {m n : Name}
    (h : wordsOf m.written.toList = wordsOf n.written.toList) : m.SameCasings n where
  pascal := by rw [pascal, pascal, pascalOf, pascalOf, h]
  camel := by rw [camel, camel, camelOf, camelOf, h]
  snake := by rw [snake, snake, snakeOf, snakeOf, h]
  shouty := by rw [shouty, shouty, shoutyOf, shoutyOf, h]

theorem SameRuns.sameCasings {m n : Name} (h : m.SameRuns n) : m.SameCasings n := by
  obtain ⟨ws, hm, hn⟩ := h
  exact sameCasings_of_wordsOf_eq (wordsOf_congr (hm.runs_eq.trans hn.runs_eq.symm))

end Name

namespace Spec

variable {s : Spec} {mode : GroupBy}

/-- A group holds the operations whose key has its class name. -/
theorem mem_operations_iff {g : Group} (hg : g ∈ s.groupOperations mode) {i : Nat}
    {op : Operation} (hop : s.operations[i]? = some op) :
    i ∈ g.operations ↔ (Name.mk (op.key mode)).pascal = g.name.pascal := by
  rw [groupOperations_eq] at hg
  obtain ⟨draft, hdraft, rfl⟩ := List.mem_map.1 hg
  obtain ⟨k, -, rfl⟩ := List.mem_map.1 hdraft
  have hi : i < s.operations.length := (List.getElem?_eq_some_iff.1 hop).1
  rw [describe, mem_mates, keyName_of_getElem? hop]
  exact and_iff_right hi

theorem exists_shared_group {i j : Nat} {a b : Operation} (ha : s.operations[i]? = some a)
    (hb : s.operations[j]? = some b)
    (h : (Name.mk (a.key mode)).pascal = (Name.mk (b.key mode)).pascal) :
    ∃ g ∈ s.groupOperations mode, i ∈ g.operations ∧ j ∈ g.operations := by
  rw [groupOperations_eq]
  exact (isPartition_closedGroups.describe.shared ha hb).2 h

/-- Names with the same runs of letters and numbers agree in every casing, whatever stands around
the runs. In either mode, operations whose keys have the same runs have a group in common, and no
group tells them apart. -/
theorem separators_immaterial :
    (∀ m n : Name, m.SameRuns n → m.SameCasings n) ∧
    ∀ (s : Spec) (mode : GroupBy) (i j : Nat) (a b : Operation),
      s.operations[i]? = some a → s.operations[j]? = some b →
      (Name.mk (a.key mode)).SameRuns ⟨b.key mode⟩ →
      (∃ g ∈ s.groupOperations mode, i ∈ g.operations ∧ j ∈ g.operations) ∧
        ∀ g ∈ s.groupOperations mode, i ∈ g.operations ↔ j ∈ g.operations := by
  refine ⟨fun m n h => h.sameCasings, ?_⟩
  intro s mode i j a b ha hb h
  have hpascal := h.sameCasings.pascal
  refine ⟨exists_shared_group ha hb hpascal, ?_⟩
  intro g hg
  rw [mem_operations_iff hg ha, mem_operations_iff hg hb, hpascal]

theorem separators_immaterial_login :
    let tagged (tag : String) : Operation :=
      { (default : Operation) with tags := [{ name := tag, description := none }] }
    let s : Spec :=
      { (default : Spec) with
        operations := [tagged "2fa-logIn", tagged "pets", tagged "//2fa  logIn_"] }
    let m : Name := ⟨"2fa-logIn"⟩
    let n : Name := ⟨"//2fa  logIn_"⟩
    (m.SameRuns n ∧ Name.sanitize m.written.toList ≠ Name.sanitize n.written.toList) ∧
      m.SameCasings n ∧
      ∃ g ∈ s.groupOperations .tag, 0 ∈ g.operations ∧ 2 ∈ g.operations := by
  intro tagged s m n
  have hruns : m.SameRuns n :=
    ⟨["2fa".toList, "logIn".toList], hasRuns_iff.2 (by decide), hasRuns_iff.2 (by decide)⟩
  exact ⟨⟨hruns, by decide⟩, separators_immaterial.1 m n hruns,
    (separators_immaterial.2 s .tag 0 2 _ _ rfl rfl hruns).1⟩

end Spec

end SpringScaffold
