import Mathlib.Data.List.Nodup
import SpringScaffold.Java.ModelClass
import SpringScaffold.Proofs.Casing
import SpringScaffold.Proofs.Literals
import SpringScaffold.Proofs.Separators
import SpringScaffold.Proofs.SplitOn

/-! Which values of an enum get a constant of their own (`Model.constants_nodup_iff`). A constant is
named by the words of its value in capitals. No word holds an underscore, so the name tells the
words, but neither their case nor what stood around them: two different operators are both
`UNNAMED` (`Model.constants_operators`). What a constant carries is what the literal of its value
denotes, so `fromValue` finds a value only where its literal denotes it. -/

namespace SpringScaffold

open Text

namespace Name

def capitalWords (n : Name) : List (List Char) := (wordsOf n.written.toList).map upperWord

/-- The letters and numbers in capitals, and those of the default name where there are none. -/
def capitals (n : Name) : List Char :=
  (if n.written.toList.filter isAlphanumeric = [] then "unnamed".toList
    else n.written.toList.filter isAlphanumeric).flatMap upperChar

variable {m n : Name}

theorem isSplit_shouty (n : Name) : IsSplit '_' n.shouty.toList n.capitalWords where
  ne_nil := by simpa [capitalWords] using wordsOf_ne_nil n.written.toList
  notMem := by
    intro p hp
    obtain ⟨w, hw, rfl⟩ := List.mem_map.1 hp
    exact notMem_upperWord isSign_underscore (notMem_wordsOf isSign_underscore hw)
  joined := by rw [shouty, String.toList_ofList, shoutyOf, capitalWords]

theorem shouty_eq_iff : m.shouty = n.shouty ↔ m.capitalWords = n.capitalWords := by
  constructor
  · intro h
    rw [(isSplit_shouty m).eq_splitOn, (isSplit_shouty n).eq_splitOn, h]
  · intro h
    rw [← String.toList_inj, ← (isSplit_shouty m).joined, ← (isSplit_shouty n).joined, h]

theorem flatten_capitalWords (n : Name) : n.capitalWords.flatten = n.capitals := by
  have hflat : ∀ ws : List (List Char),
      (ws.map upperWord).flatten = ws.flatten.flatMap upperChar := by
    intro ws
    induction ws with
    | nil => rfl
    | cons w ws ih =>
      rw [List.map_cons, List.flatten_cons, List.flatten_cons, List.flatMap_append, ih, upperWord]
  rw [capitalWords, hflat, flatten_wordsOf, capitals]

theorem capitals_eq_of_capitalWords_eq (h : m.capitalWords = n.capitalWords) :
    m.capitals = n.capitals := by
  rw [← flatten_capitalWords, h, flatten_capitalWords]

theorem SameRuns.capitalWords_eq (h : m.SameRuns n) : m.capitalWords = n.capitalWords :=
  shouty_eq_iff.1 h.sameCasings.shouty

end Name

namespace Java

namespace EnumClass

/-- What the printed `fromValue` returns: it goes through the constants in their order, up to the
first one that carries the value. A constant carries what its printed literal denotes. -/
def fromValue? (e : EnumClass) (value : String) : Option Constant :=
  e.constants.find? fun k => denoted? (literal k.value) == some (units value.toList)

/-- All literals of the enum are complete, and `fromValue` maps each of the values to the constant
that was made for it, and different values to constants of different names. -/
structure TellsApart (e : EnumClass) (values : List String) : Prop where
  complete : ∀ k ∈ e.constants, (denoted? (literal k.value)).isSome
  found : ∀ v ∈ values, ∃ k, e.fromValue? v = some k ∧ k.value = v
  own : ∀ v ∈ values, ∀ w ∈ values, ∀ k l, e.fromValue? v = some k → e.fromValue? w = some l →
    k.name = l.name → v = w

end EnumClass

end Java

namespace Model

open Java

/-- No two of the values have the same words in capitals. -/
def WordsDiffer (m : Model) : Prop :=
  ∀ v ∈ m.enumValues, ∀ w ∈ m.enumValues,
    (Name.mk v).capitalWords = (Name.mk w).capitalWords → v = w

/-- The literals of the values denote them. -/
def ValuesDenoted (m : Model) : Prop :=
  ∀ v ∈ m.enumValues, denoted? (literal v) = some (units v.toList)

variable {m : Model} {c : Config} {v : String}

theorem valuesDenoted_iff :
    m.ValuesDenoted ↔ ∀ v ∈ m.enumValues, ∀ d ∈ v.toList, d ∉ ['\\', '\n', '\r'] :=
  ⟨fun h v hv => notMem_of_denoted?_literal (h v hv), fun h v hv => denoted?_literal (h v hv)⟩

theorem fromValue?_toEnum_eq_some {k : Constant} (h : (m.toEnum c).fromValue? v = some k) :
    k.name = (Name.mk k.value).shouty ∧ denoted? (literal k.value) = some (units v.toList) := by
  refine ⟨?_, by simpa using List.find?_some h⟩
  obtain ⟨w, -, rfl⟩ := List.mem_map.1 (List.mem_of_find?_eq_some h)
  rfl

/-- Where all literals denote the values, the first one that denotes a value is its own. -/
theorem fromValue?_toEnum (hvalues : m.ValuesDenoted) (hv : v ∈ m.enumValues) :
    (m.toEnum c).fromValue? v = some ⟨(Name.mk v).shouty, v⟩ := by
  have hmem : (⟨(Name.mk v).shouty, v⟩ : Constant) ∈ (m.toEnum c).constants :=
    List.mem_map_of_mem hv
  cases h : (m.toEnum c).fromValue? v with
  | none =>
    have hmisses := List.find?_eq_none.1 h _ hmem
    simp [hvalues v hv] at hmisses
  | some k =>
    obtain ⟨w, hw, rfl⟩ := List.mem_map.1 (List.mem_of_find?_eq_some h)
    have hunits : units w.toList = units v.toList := by
      have hdenoted := (fromValue?_toEnum_eq_some h).2
      rw [hvalues w hw] at hdenoted
      exact Option.some.inj hdenoted
    obtain rfl : w = v := String.toList_inj.1 (units_injective hunits)
    rfl

theorem tellsApart_iff :
    (m.toEnum c).TellsApart m.enumValues ↔ m.WordsDiffer ∧ m.ValuesDenoted := by
  constructor
  · intro h
    have hvalues : m.ValuesDenoted := by
      intro v hv
      obtain ⟨k, hk, rfl⟩ := h.found v hv
      exact (fromValue?_toEnum_eq_some hk).2
    refine ⟨?_, hvalues⟩
    intro v hv w hw hwords
    exact h.own v hv w hw _ _ (fromValue?_toEnum hvalues hv) (fromValue?_toEnum hvalues hw)
      (Name.shouty_eq_iff.2 hwords)
  · rintro ⟨hwords, hvalues⟩
    refine ⟨?_, fun v hv => ⟨_, fromValue?_toEnum hvalues hv, rfl⟩, ?_⟩
    · rintro k hk
      obtain ⟨v, hv, rfl⟩ := List.mem_map.1 hk
      rw [hvalues v hv]
      rfl
    · intro v hv w hw k l hk hl hname
      obtain rfl := Option.some.inj ((fromValue?_toEnum hvalues hv).symm.trans hk)
      obtain rfl := Option.some.inj ((fromValue?_toEnum hvalues hw).symm.trans hl)
      exact hwords v hv w hw (Name.shouty_eq_iff.1 hname)

theorem constantNames_eq :
    (m.toEnum c).constants.map Constant.name = m.enumValues.map fun v => (Name.mk v).shouty := by
  rw [toEnum, List.map_map]
  rfl

theorem nodup_constantNames_iff (hvalues : m.enumValues.Nodup) :
    ((m.toEnum c).constants.map Constant.name).Nodup ↔ m.WordsDiffer := by
  rw [constantNames_eq, List.nodup_map_iff_inj_on hvalues]
  simp only [Name.shouty_eq_iff]
  rfl

/-- An enum of different values has different constants exactly where the words of the values differ
in capitals. Then it tells its values apart by them, as long as no value holds a backslash or a line
break. The words differ where the letters and numbers of the values differ in capitals, and never
where two values hold the same runs of letters and numbers. -/
theorem constants_nodup_iff (m : Model) (c : Config) (hvalues : m.enumValues.Nodup) :
    (((m.toEnum c).constants.map Constant.name).Nodup ↔ m.WordsDiffer) ∧
      ((m.toEnum c).TellsApart m.enumValues ↔
        m.WordsDiffer ∧ ∀ v ∈ m.enumValues, ∀ d ∈ v.toList, d ∉ ['\\', '\n', '\r']) ∧
      ((∀ v ∈ m.enumValues, ∀ w ∈ m.enumValues,
        (Name.mk v).capitals = (Name.mk w).capitals → v = w) → m.WordsDiffer) ∧
      ((∃ v ∈ m.enumValues, ∃ w ∈ m.enumValues, v ≠ w ∧ (Name.mk v).SameRuns ⟨w⟩) →
        ¬ m.WordsDiffer) := by
  refine ⟨nodup_constantNames_iff hvalues, ?_, ?_, ?_⟩
  · rw [← valuesDenoted_iff]
    exact tellsApart_iff
  · intro hcapitals v hv w hw hwords
    exact hcapitals v hv w hw (Name.capitals_eq_of_capitalWords_eq hwords)
  · rintro ⟨v, hv, w, hw, hne, hruns⟩ hdiffer
    exact hne (hdiffer v hv w hw hruns.capitalWords_eq)

theorem constants_nodup_iff_status :
    let m : Model :=
      { (default : Model) with
        isEnum := true, enumValues := ["in-stock", "soldOut", "pre order"] }
    m.enumValues.Nodup ∧
      (m.toEnum Config.default).constants.map Constant.name
        = ["IN_STOCK", "SOLD_OUT", "PRE_ORDER"] ∧
      (m.toEnum Config.default).TellsApart m.enumValues := by
  intro m
  have hvalues : m.enumValues.Nodup := by decide
  have hplain : ∀ v ∈ m.enumValues, ∀ d ∈ v.toList, d ∉ ['\\', '\n', '\r'] := by simp [m]
  obtain ⟨-, happart, hcapitals, -⟩ := constants_nodup_iff m Config.default hvalues
  exact ⟨hvalues, by decide, happart.2 ⟨hcapitals (by decide), hplain⟩⟩

/-- The literal of the first value denotes the second one. -/
example :
    let e : EnumClass :=
      Model.toEnum Config.default { (default : Model) with enumValues := ["\\u0041", "A"] }
    e.fromValue? "A" = some ⟨"U0041", "\\u0041"⟩ ∧ e.fromValue? "\\u0041" = none := by
  decide

/-- Operators have no words, so two of them have one constant, and the printed enum declares it
twice. -/
theorem constants_operators :
    let m : Model :=
      { (default : Model) with
        name := "Comparison", className := "Comparison", isEnum := true,
        enumValues := ["<", ">"] }
    let e := m.toEnum Config.default
    m.enumValues.Nodup ∧ ¬ (e.constants.map Constant.name).Nodup ∧
      EnumClass.constantLines e.constants
        = ["    UNNAMED(" ++ literal "<" ++ "),", "    UNNAMED(" ++ literal ">" ++ ");"] ∧
      ¬ e.TellsApart m.enumValues := by
  intro m e
  have hwords : ¬ m.WordsDiffer := by
    intro h
    exact absurd (h "<" (by decide) ">" (by decide) (by decide)) (by decide)
  exact ⟨by decide, by decide, by decide, fun h => hwords (tellsApart_iff.1 h).1⟩

end Model

end SpringScaffold
