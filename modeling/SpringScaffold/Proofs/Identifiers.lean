import Mathlib.Data.List.Forall2
import SpringScaffold.Proofs.Casing

/-! The casings of an ASCII name as Java identifiers. The sanitizer makes an identifier of every
ASCII text (`Name.isIdentifier_sanitize`), with an underscore in front of a digit at the start. The
casings see the words of that text only, and the underscore is in none of them. So each casing is a
text of letters, digits and underscores, and it is an identifier exactly where the name does not
start with a digit (`Name.isIdentifier_casings_iff`). -/

namespace SpringScaffold

namespace Text

def isAsciiAlphanumeric (c : Char) : Bool := isAsciiLower c || isAsciiUpper c || isAsciiDigit c

def isWordChar (c : Char) : Bool := isAsciiAlphanumeric c || c == '_'

def startsWithDigit (cs : List Char) : Bool := cs.head?.any isAsciiDigit

/-- An identifier of ASCII letters, digits and underscores. -/
structure IsIdentifier (cs : List Char) : Prop where
  ne_nil : cs ≠ []
  chars : ∀ c ∈ cs, isWordChar c = true
  first : startsWithDigit cs = false

instance (cs : List Char) : Decidable (IsIdentifier cs) :=
  decidable_of_iff (cs ≠ [] ∧ cs.all isWordChar = true ∧ startsWithDigit cs = false)
    ⟨fun ⟨hne, hall, hfirst⟩ => ⟨hne, List.all_eq_true.1 hall, hfirst⟩,
      fun h => ⟨h.ne_nil, List.all_eq_true.2 h.chars, h.first⟩⟩

theorem isAlphanumeric_of_lt {c : Char} (h : c.toNat < 128) :
    isAlphanumeric c = isAsciiAlphanumeric c := by
  rw [isAlphanumeric, if_pos h, isAsciiAlphanumeric]

theorem isWordChar_of_isAsciiAlphanumeric {c : Char} (h : isAsciiAlphanumeric c = true) :
    isWordChar c = true := by
  rw [isWordChar, h, Bool.true_or]

theorem lt_of_isAsciiAlphanumeric {c : Char} (h : isAsciiAlphanumeric c = true) :
    c.toNat < 128 := by
  have hle : ∀ {d : Char}, c ≤ d → d.toNat < 128 → c.toNat < 128 := by
    intro d hcd hd
    exact Nat.lt_of_le_of_lt hcd hd
  simp only [isAsciiAlphanumeric, isAsciiLower, isAsciiUpper, isAsciiDigit, Bool.or_eq_true,
    Bool.and_eq_true, decide_eq_true_eq] at h
  rcases h with (⟨-, h⟩ | ⟨-, h⟩) | ⟨-, h⟩
  · exact hle h (by decide)
  · exact hle h (by decide)
  · exact hle h (by decide)

theorem forall_isAsciiAlphanumeric {P : Char → Prop}
    (hall : ∀ n < 128, isAsciiAlphanumeric (Char.ofNat n) = true → P (Char.ofNat n)) {c : Char}
    (h : isAsciiAlphanumeric c = true) : P c := by
  have hc := hall c.toNat (lt_of_isAsciiAlphanumeric h)
  rw [Char.ofNat_toNat] at hc
  exact hc h

theorem startsWithDigit_append {v : List Char} (hv : v ≠ []) (w : List Char) :
    startsWithDigit (v ++ w) = startsWithDigit v := by
  rw [startsWithDigit, List.head?_append_of_ne_nil v hv, startsWithDigit]

/-- The same letter in one or the other case, or the same digit, as far as identifiers go. -/
structure IsRecased (c d : Char) : Prop where
  isAlphanumeric : isAsciiAlphanumeric d = true
  isDigit : isAsciiDigit d = isAsciiDigit c

instance (c d : Char) : Decidable (IsRecased c d) :=
  decidable_of_iff (isAsciiAlphanumeric d = true ∧ isAsciiDigit d = isAsciiDigit c)
    ⟨fun ⟨h₁, h₂⟩ => ⟨h₁, h₂⟩, fun h => ⟨h.isAlphanumeric, h.isDigit⟩⟩

/-- A text, letter by letter in one or the other case. -/
abbrev Recased (w v : List Char) : Prop := List.Forall₂ IsRecased w v

theorem lowerChar_recased {c : Char} (h : isAsciiAlphanumeric c = true) :
    Recased [c] (lowerChar c) :=
  forall_isAsciiAlphanumeric (P := fun c => Recased [c] (lowerChar c)) (by decide) h

theorem upperChar_recased {c : Char} (h : isAsciiAlphanumeric c = true) :
    Recased [c] (upperChar c) :=
  forall_isAsciiAlphanumeric (P := fun c => Recased [c] (upperChar c)) (by decide) h

namespace Recased

variable {v w : List Char}

theorem ne_nil (h : Recased w v) (hw : w ≠ []) : v ≠ [] := by
  rintro rfl
  exact hw (List.forall₂_nil_right_iff.1 h)

theorem startsWithDigit_eq (h : Recased w v) : startsWithDigit v = startsWithDigit w := by
  cases h with
  | nil => rfl
  | cons hcd _ => exact hcd.isDigit

theorem isWordChar (h : Recased w v) : ∀ c ∈ v, isWordChar c = true := by
  induction h with
  | nil => simp
  | cons hcd _ ih =>
    exact List.forall_mem_cons.2 ⟨isWordChar_of_isAsciiAlphanumeric hcd.isAlphanumeric, ih⟩

end Recased

/-- A text over the characters of identifiers that starts as some words do. -/
structure IsCasing (ws : List (List Char)) (v : List Char) : Prop where
  ne_nil : v ≠ []
  chars : ∀ c ∈ v, isWordChar c = true
  first : startsWithDigit v = startsWithDigit ws.flatten

theorem IsCasing.isIdentifier_iff {ws : List (List Char)} {v : List Char} (h : IsCasing ws v) :
    IsIdentifier v ↔ startsWithDigit ws.flatten = false := by
  rw [← h.first]
  exact ⟨fun hv => hv.first, fun hfirst => ⟨h.ne_nil, h.chars, hfirst⟩⟩

theorem exists_intercalate_cons (sep v : List Char) (vs : List (List Char)) :
    ∃ rest, sep.intercalate (v :: vs) = v ++ rest := by
  cases vs with
  | nil => exact ⟨[], by rw [List.intercalate_singleton, List.append_nil]⟩
  | cons u us => exact ⟨sep ++ sep.intercalate (u :: us), by simp⟩

theorem intercalate_nil_left (vs : List (List Char)) :
    ([] : List Char).intercalate vs = vs.flatten := by
  induction vs with
  | nil => rfl
  | cons v vs ih =>
    cases vs with
    | nil => simp
    | cons u us => rw [List.intercalate_cons_cons, ih, List.append_nil]; rfl

/-- Words joined by whatever may stand in an identifier. -/
theorem isCasing_intercalate {sep : List Char} (hsep : ∀ c ∈ sep, isWordChar c = true)
    {ws vs : List (List Char)} (h : List.Forall₂ Recased ws vs) (hne : ws ≠ []) (hnil : [] ∉ ws) :
    IsCasing ws (sep.intercalate vs) := by
  have hchars : ∀ c ∈ sep.intercalate vs, isWordChar c = true := by
    clear hne hnil
    induction h with
    | nil => simp
    | cons hwv htail ih =>
      cases htail with
      | nil =>
        rw [List.intercalate_singleton]
        exact hwv.isWordChar
      | cons _ _ =>
        rw [List.intercalate_cons_cons]
        exact List.forall_mem_append.2 ⟨List.forall_mem_append.2 ⟨hwv.isWordChar, hsep⟩, ih⟩
  cases h with
  | nil => exact absurd rfl hne
  | cons hwv htail =>
    next w v ws vs =>
    have hw : w ≠ [] := fun he => hnil (he ▸ List.mem_cons_self)
    obtain ⟨rest, hrest⟩ := exists_intercalate_cons sep v vs
    rw [hrest] at hchars ⊢
    refine ⟨by simp [hwv.ne_nil hw], hchars, ?_⟩
    rw [startsWithDigit_append (hwv.ne_nil hw), hwv.startsWithDigit_eq, List.flatten_cons,
      startsWithDigit_append hw]

end Text

namespace Name

open Text

section Words

variable {w : List Char}

theorem lowerWord_recased (hw : ∀ c ∈ w, isAsciiAlphanumeric c = true) :
    Recased w (lowerWord w) := by
  fun_induction lowerWord w with
  | case1 => exact .nil
  | case2 => exact absurd (hw 'Σ' List.mem_cons_self) (by decide)
  | case3 c rest _ ih =>
    obtain ⟨hc, hrest⟩ := List.forall_mem_cons.1 hw
    exact List.rel_append (lowerChar_recased hc) (ih hrest)

theorem upperWord_recased (hw : ∀ c ∈ w, isAsciiAlphanumeric c = true) :
    Recased w (upperWord w) := by
  induction w with
  | nil => exact .nil
  | cons c rest ih =>
    obtain ⟨hc, hrest⟩ := List.forall_mem_cons.1 hw
    exact List.rel_append (upperChar_recased hc) (ih hrest)

theorem capitalizeWord_recased (hw : ∀ c ∈ w, isAsciiAlphanumeric c = true) :
    Recased w (capitalizeWord w) := by
  cases w with
  | nil => exact .nil
  | cons c rest =>
    obtain ⟨hc, hrest⟩ := List.forall_mem_cons.1 hw
    exact List.rel_append (upperChar_recased hc) (lowerWord_recased hrest)

end Words

theorem map_recased {ws : List (List Char)}
    (hws : ∀ w ∈ ws, ∀ c ∈ w, isAsciiAlphanumeric c = true) {recase : List Char → List Char}
    (hrecase : ∀ {w}, (∀ c ∈ w, isAsciiAlphanumeric c = true) → Recased w (recase w)) :
    List.Forall₂ Recased ws (ws.map recase) := by
  rw [List.forall₂_map_right_iff, List.forall₂_same]
  exact fun w hw => hrecase (hws w hw)

/-- No letter of the default name is a digit either. -/
theorem startsWithDigit_wordsOf (cs : List Char) :
    startsWithDigit (wordsOf cs).flatten = (cs.find? isAlphanumeric).any isAsciiDigit := by
  rw [flatten_wordsOf, ← List.head?_filter]
  split
  · next hnil =>
    rw [hnil]
    decide
  · rfl

section Ascii

variable {cs : List Char} (hascii : ∀ c ∈ cs, c.toNat < 128)

include hascii

/-- Underscores and letters may follow each other in any order, so that only the start of the result
matters. -/
theorem isWordChar_sanitizeFrom {result : List Char} (separated : Bool)
    (hchars : ∀ c ∈ result, isWordChar c = true) (hfirst : startsWithDigit result.reverse = false) :
    (∀ c ∈ sanitizeFrom result separated cs, isWordChar c = true) ∧
      startsWithDigit (sanitizeFrom result separated cs) = false := by
  induction cs generalizing result separated with
  | nil => exact ⟨fun c hc => hchars c (List.mem_reverse.1 hc), hfirst⟩
  | cons c rest ih =>
    obtain ⟨hc, hrest⟩ := List.forall_mem_cons.1 hascii
    rw [sanitizeFrom]
    split
    · next hkeep =>
      rw [isAlphanumeric_of_lt hc] at hkeep
      have hword := isWordChar_of_isAsciiAlphanumeric hkeep
      have hmark : isWordChar '_' = true ∧ isAsciiDigit '_' = false := by decide
      refine ih hrest false ?_ ?_
      · cases result <;> cases isAsciiDigit c <;> cases separated <;> simp_all
      · cases result with
        | nil =>
          cases hdigit : isAsciiDigit c <;> cases separated <;>
            simp [hdigit, hmark, startsWithDigit]
        | cons d ds =>
          have hkept : ∀ more, startsWithDigit ((d :: ds).reverse ++ more) = false := by
            intro more
            rw [startsWithDigit_append (by simp), hfirst]
          cases separated with
          | false => simpa using hkept [c]
          | true => simpa using hkept ['_', c]
    · exact ih hrest true hchars hfirst

theorem isIdentifier_sanitize : IsIdentifier (sanitize cs) := by
  obtain ⟨hchars, hfirst⟩ := isWordChar_sanitizeFrom hascii false (List.forall_mem_nil _) rfl
  unfold sanitize
  split
  · decide
  · next hne => exact ⟨hne, hchars, hfirst⟩

theorem isAsciiAlphanumeric_of_mem_wordsOf {w : List Char} (hw : w ∈ wordsOf cs) :
    ∀ c ∈ w, isAsciiAlphanumeric c = true := by
  intro c hc
  have hflat : c ∈ (wordsOf cs).flatten := List.mem_flatten.2 ⟨w, hw, hc⟩
  rw [flatten_wordsOf] at hflat
  split at hflat
  · have hdefault : "unnamed".toList.all isAsciiAlphanumeric = true := by decide
    exact List.all_eq_true.1 hdefault c hflat
  · obtain ⟨hmem, hkeep⟩ := List.mem_filter.1 hflat
    rwa [isAlphanumeric_of_lt (hascii c hmem)] at hkeep

theorem isCasing_join {sep : List Char} (hsep : ∀ c ∈ sep, isWordChar c = true)
    {recase : List Char → List Char}
    (hrecase : ∀ {w}, (∀ c ∈ w, isAsciiAlphanumeric c = true) → Recased w (recase w)) :
    IsCasing (wordsOf cs) (sep.intercalate ((wordsOf cs).map recase)) := by
  have hwords := fun w => isAsciiAlphanumeric_of_mem_wordsOf hascii (w := w)
  exact isCasing_intercalate hsep (map_recased hwords hrecase) (wordsOf_ne_nil cs)
    (nil_notMem_wordsOf cs)

theorem isCasing_snakeOf : IsCasing (wordsOf cs) (snakeOf cs) :=
  isCasing_join hascii (List.forall_mem_singleton.2 (by decide)) lowerWord_recased

theorem isCasing_shoutyOf : IsCasing (wordsOf cs) (shoutyOf cs) :=
  isCasing_join hascii (List.forall_mem_singleton.2 (by decide)) upperWord_recased

theorem isCasing_pascalOf : IsCasing (wordsOf cs) (pascalOf cs) := by
  have h := isCasing_join hascii (List.forall_mem_nil _) capitalizeWord_recased
  rwa [intercalate_nil_left, ← List.flatMap_def] at h

theorem isCasing_camelOf : IsCasing (wordsOf cs) (camelOf cs) := by
  have hwords := fun w => isAsciiAlphanumeric_of_mem_wordsOf hascii (w := w)
  have hnil := nil_notMem_wordsOf cs
  unfold camelOf
  split
  · next h => exact absurd h (wordsOf_ne_nil cs)
  · next w ws h =>
    rw [h] at hwords hnil ⊢
    obtain ⟨hw, hws⟩ := List.forall_mem_cons.1 hwords
    have hcasing := isCasing_intercalate (List.forall_mem_nil _)
      (.cons (lowerWord_recased hw) (map_recased hws capitalizeWord_recased)) (by simp) hnil
    rwa [intercalate_nil_left, List.flatten_cons, ← List.flatMap_def] at hcasing

end Ascii

theorem escapeReserved_notMem_reserved (word : String) : escapeReserved word ∉ reserved := by
  have hmark : ∀ w ∈ reserved, w.toList.head? ≠ some '_' := by decide
  unfold escapeReserved
  split
  · intro hmem
    exact hmark _ hmem (by simp)
  · next h => simpa using h

/-- A reserved word does not start with a digit, and neither does what it becomes. -/
theorem isCasing_escapeReserved {ws : List (List Char)} {v : List Char} (h : IsCasing ws v) :
    IsCasing ws (escapeReserved (String.ofList v)).toList := by
  have hdigit : ∀ w ∈ reserved, startsWithDigit w.toList = false := by decide
  unfold escapeReserved
  split
  · next hmem =>
    have hfirst := hdigit _ (List.contains_iff_mem.1 hmem)
    rw [String.toList_ofList, h.first] at hfirst
    have hmarked : ("_" ++ String.ofList v).toList = '_' :: v := by simp
    rw [hmarked]
    exact ⟨by simp, List.forall_mem_cons.2 ⟨by decide, h.chars⟩, hfirst.symm⟩
  · rwa [String.toList_ofList]

theorem isIdentifier_casings_iff (n : Name) (hascii : ∀ c ∈ n.written.toList, c.toNat < 128) :
    (∀ v ∈ [n.pascal, n.camel, n.snake, n.shouty],
      v ≠ "" ∧ (∀ c ∈ v.toList, isWordChar c = true) ∧
        (IsIdentifier v.toList ↔
          (n.written.toList.find? isAlphanumeric).any isAsciiDigit = false)) ∧
      n.camel ∉ reserved := by
  refine ⟨?_, escapeReserved_notMem_reserved _⟩
  have hcasings : ∀ v ∈ [n.pascal, n.camel, n.snake, n.shouty],
      IsCasing (wordsOf n.written.toList) v.toList := by
    simp only [List.forall_mem_cons, pascal, snake, shouty, String.toList_ofList]
    exact ⟨isCasing_pascalOf hascii, isCasing_escapeReserved (isCasing_camelOf hascii),
      isCasing_snakeOf hascii, isCasing_shoutyOf hascii, by simp⟩
  intro v hv
  have h := hcasings v hv
  refine ⟨?_, h.chars, ?_⟩
  · rintro rfl
    exact h.ne_nil rfl
  · rw [h.isIdentifier_iff, startsWithDigit_wordsOf]

theorem isIdentifier_casings_requestId :
    (∀ c ∈ "X-Request-Id".toList, c.toNat < 128) ∧
      ∀ v ∈ ["XRequestId", "xRequestId", "x_request_id", "X_REQUEST_ID"],
        IsIdentifier v.toList := by
  have hascii : ∀ c ∈ "X-Request-Id".toList, c.toNat < 128 := by
    have hall : "X-Request-Id".toList.all (fun c => c.toNat < 128) = true := by decide
    exact fun c hc => of_decide_eq_true (List.all_eq_true.1 hall c hc)
  have hcasings := (isIdentifier_casings_iff ⟨"X-Request-Id"⟩ hascii).1
  have hvalues : [pascal ⟨"X-Request-Id"⟩, camel ⟨"X-Request-Id"⟩, snake ⟨"X-Request-Id"⟩,
      shouty ⟨"X-Request-Id"⟩] =
        ["XRequestId", "xRequestId", "x_request_id", "X_REQUEST_ID"] := by
    decide
  rw [hvalues] at hcasings
  exact ⟨hascii, fun v hv => (hcasings v hv).2.2.2 (by decide)⟩

/-- The sanitizer guards the digit, and every casing brings it to the front again. -/
theorem not_isIdentifier_casings_digit :
    sanitize "2fa".toList = "_2fa".toList ∧
      pascal ⟨"2fa"⟩ = "2fa" ∧ camel ⟨"2fa"⟩ = "2fa" ∧ snake ⟨"2fa"⟩ = "2fa" ∧
      shouty ⟨"2fa"⟩ = "2FA" ∧
      ∀ v ∈ [pascal ⟨"2fa"⟩, camel ⟨"2fa"⟩, snake ⟨"2fa"⟩, shouty ⟨"2fa"⟩],
        ¬ IsIdentifier v.toList := by
  decide

end Name

end SpringScaffold
