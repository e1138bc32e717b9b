import SpringScaffold.Proofs.Wrapping

/-! Splitting map types whose key and value are any well-formed types. The value type becomes the
base type exactly when the key type holds no comma, and otherwise what stands behind the first comma
of the key type is left in front of it (`Signature.split?_mapType`). -/

namespace SpringScaffold

namespace Text

/-- White space, or nothing. -/
def IsGap (cs : List Char) : Prop := ∀ c ∈ cs, isBlank c = true

instance (cs : List Char) : Decidable (IsGap cs) :=
  decidable_of_iff (cs.all isBlank = true) List.all_eq_true

theorem trimStart_of_isGap {gap : List Char} (h : IsGap gap) : trimStart gap = [] :=
  List.dropWhile_eq_nil_iff.2 h

/-- Trimming stops at a character that is not white space. -/
theorem trimStart_append_of_head? {cs : List Char} (h : ∀ c ∈ cs.head?, isBlank c = false)
    (before : List Char) : trimStart (before ++ cs) = trimStart before ++ cs := by
  induction before with
  | nil => exact trimStart_of_head? h
  | cons b before ih =>
    rw [List.cons_append, trimStart, trimStart]
    by_cases hb : isBlank b = true
    · rw [List.dropWhile_cons_of_pos hb, List.dropWhile_cons_of_pos hb]
      exact ih
    · rw [List.dropWhile_cons_of_neg hb, List.dropWhile_cons_of_neg hb, List.cons_append]

theorem trimStart_append_of_isGap {gap : List Char} (h : IsGap gap) (cs : List Char) :
    trimStart (gap ++ cs) = trimStart cs := List.dropWhile_append_of_pos h

theorem trimEnd_append_of_isGap {gap : List Char} (h : IsGap gap) (cs : List Char) :
    trimEnd (cs ++ gap) = trimEnd cs := by
  have hgap : IsGap gap.reverse := fun c hc => h c (List.mem_reverse.1 hc)
  rw [trimEnd_eq_reverse, trimEnd_eq_reverse, List.reverse_append, trimStart_append_of_isGap hgap]

theorem IsTrimmed.trimEnd_append {cs : List Char} (h : IsTrimmed cs) (hcs : cs ≠ [])
    (before : List Char) : trimEnd (before ++ cs) = before ++ cs := by
  rw [trimEnd_eq_reverse, trimStart_of_head?, List.reverse_reverse]
  intro c hc
  rw [List.head?_reverse, List.getLast?_append_of_ne_nil before hcs] at hc
  exact h.last c hc

end Text

open Text

namespace Signature

/-! ### Well-formed types -/

/-- A word of a type. Which letters Java admits does not matter here, so all characters are taken
that neither are white space nor set the parts of a type apart. -/
structure IsTypeWord (cs : List Char) : Prop where
  ne_nil : cs ≠ []
  chars : ∀ c ∈ cs, isBlank c = false ∧ c ∉ ['<', '>', ',', '.']

instance (cs : List Char) : Decidable (IsTypeWord cs) :=
  decidable_of_iff (cs ≠ [] ∧ cs.all fun c => isBlank c = false ∧ c ∉ ['<', '>', ',', '.'])
    ⟨fun ⟨hne, hall⟩ => ⟨hne, by simpa using hall⟩, fun h => ⟨h.ne_nil, by simpa using h.chars⟩⟩

/-- Words with dots between them. -/
inductive IsTypeName : List Char → Prop where
  | word {w : List Char} : IsTypeWord w → IsTypeName w
  | dotted {w rest : List Char} : IsTypeWord w → IsTypeName rest → IsTypeName (w ++ '.' :: rest)

mutual

/-- A name, which types in angle brackets may follow. -/
inductive IsType : List Char → Prop where
  | plain {name : List Char} : IsTypeName name → IsType name
  | applied {name arguments : List Char} : IsTypeName name → AreTypes arguments →
    IsType (name ++ '<' :: (arguments ++ ['>']))

/-- One or more types with commas between them and white space around each. -/
inductive AreTypes : List Char → Prop where
  | last {before type after : List Char} : IsGap before → IsType type → IsGap after →
    AreTypes (before ++ (type ++ after))
  | more {before type after rest : List Char} : IsGap before → IsType type → IsGap after →
    AreTypes rest → AreTypes (before ++ (type ++ (after ++ ',' :: rest)))

end

theorem IsTypeName.ne_nil {name : List Char} (h : IsTypeName name) : name ≠ [] := by
  cases h with
  | word hw => exact hw.ne_nil
  | dotted hw _ => exact List.append_ne_nil_of_left_ne_nil hw.ne_nil _

theorem IsTypeName.not_isBlank {name : List Char} (h : IsTypeName name) :
    ∀ c ∈ name, isBlank c = false := by
  induction h with
  | word hw => exact fun c hc => (hw.chars c hc).1
  | dotted hw _ ih =>
    intro c hc
    rcases List.mem_append.1 hc with hc | hc
    · exact (hw.chars c hc).1
    · rcases List.mem_cons.1 hc with rfl | hc
      · rfl
      · exact ih c hc

theorem IsType.ne_nil {type : List Char} (h : IsType type) : type ≠ [] := by
  cases h with
  | plain hname => exact hname.ne_nil
  | applied hname _ => exact List.append_ne_nil_of_left_ne_nil hname.ne_nil _

theorem IsType.isTrimmed {type : List Char} (h : IsType type) : IsTrimmed type := by
  cases h with
  | plain hname =>
    exact ⟨fun c hc => hname.not_isBlank c (List.mem_of_mem_head? hc),
      fun c hc => hname.not_isBlank c (List.mem_of_getLast? hc)⟩
  | @applied name arguments hname _ =>
    constructor
    · intro c hc
      rw [List.head?_append_of_ne_nil _ hname.ne_nil] at hc
      exact hname.not_isBlank c (List.mem_of_mem_head? hc)
    · intro c hc
      rw [← List.cons_append, ← List.append_assoc, List.getLast?_concat] at hc
      obtain rfl := Option.some.inj hc
      rfl

/-! ### Map types -/

/-- A map type as it is written: its key and its value with any white space around them. -/
structure MapType where
  opening : String
  beforeKey : String
  key : String
  afterKey : String
  beforeValue : String
  value : String
  afterValue : String
  opens : opening = "Map" ∨ opening = "java.util.Map"
  isType_key : IsType key.toList
  isType_value : IsType value.toList
  gapBeforeKey : IsGap beforeKey.toList
  gapAfterKey : IsGap afterKey.toList
  gapBeforeValue : IsGap beforeValue.toList
  gapAfterValue : IsGap afterValue.toList

namespace MapType

def text (m : MapType) : String :=
  m.opening ++ "<" ++ m.beforeKey ++ m.key ++ m.afterKey ++ "," ++ m.beforeValue ++ m.value
    ++ m.afterValue ++ ">"

/-- What is left of the key type in front of the value type. -/
def leftover (m : MapType) : String :=
  match splitAtFirst ',' m.key.toList with
  | none => ""
  | some (_, rest) =>
    String.ofList (trimStart (rest ++ m.afterKey.toList ++ ',' :: m.beforeValue.toList))

/-- Everything between the outer angle brackets. -/
def inside (m : MapType) : List Char :=
  m.beforeKey.toList ++ (m.key.toList ++ (m.afterKey.toList ++
    ',' :: (m.beforeValue.toList ++ (m.value.toList ++ m.afterValue.toList))))

variable (m : MapType)

theorem toList_text : m.text.toList = m.opening.toList ++ '<' :: (m.inside ++ '>' :: []) := by
  simp [text, inside]

/-- Which container opens is read off the first letters alone. -/
theorem splitChars?_text :
    splitChars? m.text.toList = (value? m.inside).map fun value => (trim value, .map) := by
  rw [toList_text]
  generalize m.inside = inside
  obtain ⟨hlist, hmap, hmark⟩ :
      Container.list.opens (m.opening.toList ++ '<' :: (inside ++ '>' :: [])) = false ∧
        Container.map.opens (m.opening.toList ++ '<' :: (inside ++ '>' :: [])) = true ∧
        '<' ∉ m.opening.toList := by
    rcases m.opens with h | h
    · rw [h]
      exact ⟨rfl, rfl, by decide⟩
    · rw [h]
      exact ⟨rfl, rfl, by decide⟩
  rw [splitChars?, hlist, hmap, if_neg Bool.false_ne_true, if_pos rfl,
    inner?_append hmark _ (by decide), Option.bind_some]

theorem comma_notMem_of_isGap {gap : List Char} (h : IsGap gap) : ',' ∉ gap := by
  intro hc
  cases h ',' hc

/-- The value type has no white space at its ends, so trimming stops there. -/
theorem trim_append_value (before : List Char) :
    trim (before ++ (m.value.toList ++ m.afterValue.toList)) =
      trimStart before ++ m.value.toList := by
  have hhead : ∀ c ∈ (m.value.toList ++ m.afterValue.toList).head?, isBlank c = false := by
    rw [List.head?_append_of_ne_nil _ m.isType_value.ne_nil]
    exact m.isType_value.isTrimmed.first
  rw [trim, trimStart_append_of_head? hhead, ← List.append_assoc,
    trimEnd_append_of_isGap m.gapAfterValue,
    m.isType_value.isTrimmed.trimEnd_append m.isType_value.ne_nil]

/-- The key type without a comma goes as a whole. -/
theorem value?_inside_of_notMem (hkey : ',' ∉ m.key.toList) :
    value? m.inside = some (m.beforeValue.toList ++ (m.value.toList ++ m.afterValue.toList)) := by
  have hbefore := comma_notMem_of_isGap m.gapBeforeKey
  have hafter := comma_notMem_of_isGap m.gapAfterKey
  rw [inside, ← List.append_assoc, ← List.append_assoc, value?_append]
  simp [hbefore, hkey, hafter]

/-- Of a key type with commas only what stands before the first one goes. -/
theorem value?_inside_of_split {before rest : List Char}
    (hkey : splitAtFirst ',' m.key.toList = some (before, rest)) :
    value? m.inside = some ((rest ++ m.afterKey.toList ++ ',' :: m.beforeValue.toList) ++
      (m.value.toList ++ m.afterValue.toList)) := by
  obtain ⟨he, hbefore⟩ := eq_append_of_splitAtFirst hkey
  have hgap := comma_notMem_of_isGap m.gapBeforeKey
  rw [inside, he, List.append_assoc, ← List.append_assoc, List.cons_append, value?_append]
  · simp
  · simp [hgap, hbefore]

theorem map_trim_value?_inside :
    (value? m.inside).map trim = some (m.leftover ++ m.value).toList := by
  rw [String.toList_append, leftover]
  cases hkey : splitAtFirst ',' m.key.toList with
  | none =>
    rw [m.value?_inside_of_notMem (splitAtFirst_eq_none_iff.1 hkey), Option.map_some,
      trim_append_value, trimStart_of_isGap m.gapBeforeValue]
    rfl
  | some parts =>
    rw [m.value?_inside_of_split hkey, Option.map_some, trim_append_value, String.toList_ofList]

theorem split?_text : split? (some m.text) = some ⟨m.leftover ++ m.value, .map⟩ := by
  have hsplit : splitChars? m.text.toList = some ((m.leftover ++ m.value).toList, .map) := by
    obtain ⟨value, hvalue, htrim⟩ := Option.map_eq_some_iff.1 m.map_trim_value?_inside
    rw [splitChars?_text, hvalue, Option.map_some, htrim]
  rw [split?, hsplit]
  exact congrArg (fun base => some (SplitType.mk base .map)) String.ofList_toList

/-- Something is left of a key type with a comma: at least the comma in front of the value. -/
theorem leftover_eq_empty_iff : m.leftover = "" ↔ ',' ∉ m.key.toList := by
  rw [← splitAtFirst_eq_none_iff, leftover]
  cases splitAtFirst ',' m.key.toList with
  | none => simp
  | some parts =>
    have hhead : ∀ c ∈ (',' :: m.beforeValue.toList).head?, isBlank c = false := by
      intro c hc
      obtain rfl := Option.some.inj hc
      rfl
    rw [← String.toList_inj]
    simp only [String.toList_ofList, trimStart_append_of_head? hhead]
    simp

end MapType

/-- A map type is always split as a map, and its base type ends with the value type. It is just the
value type exactly when the key type holds no comma. -/
theorem split?_mapType (m : MapType) :
    (split? (some m.text) = some ⟨m.value, .map⟩ ↔ ',' ∉ m.key.toList) ∧
      split? (some m.text) = some ⟨m.leftover ++ m.value, .map⟩ := by
  refine ⟨?_, m.split?_text⟩
  rw [m.split?_text, ← m.leftover_eq_empty_iff, Option.some.injEq, SplitType.mk.injEq,
    and_iff_left rfl, ← String.toList_inj, String.toList_append, List.append_left_eq_self,
    String.toList_eq_nil_iff]

example : split? (some "java.util.Map<UUID , Map<String, Pet> >") =
    some ⟨"Map<String, Pet>", .map⟩ := by decide

theorem isType_pair : IsType "Map<A, B>".toList := by
  have hfirst : IsType ['A'] := .plain (.word (by decide))
  have hsecond : IsType ['B'] := .plain (.word (by decide))
  have hgap : IsGap [' '] := by decide
  have hnone : IsGap [] := by decide
  have harguments : AreTypes "A, B".toList :=
    .more hnone hfirst hnone (.last hgap hsecond hnone)
  have hname : IsTypeName "Map".toList := .word (by decide)
  exact .applied hname harguments

/-- A map whose keys are maps themselves. -/
def mapOfMaps : MapType where
  opening := "Map"
  beforeKey := ""
  key := "Map<A, B>"
  afterKey := ""
  beforeValue := " "
  value := "C"
  afterValue := ""
  opens := .inl rfl
  isType_key := isType_pair
  isType_value := .plain (.word (by decide))
  gapBeforeKey := by decide
  gapAfterKey := by decide
  gapBeforeValue := by decide
  gapAfterValue := by decide

/-- Half of the key type is taken for a part of the value type. -/
theorem split?_mapOfMaps :
    mapOfMaps.text = "Map<Map<A, B>, C>" ∧ mapOfMaps.value = "C" ∧
      split? (some mapOfMaps.text) = some ⟨"B>, C", .map⟩ ∧
      split? (some mapOfMaps.text) ≠ some ⟨mapOfMaps.value, .map⟩ := by
  decide

end Signature

end SpringScaffold
