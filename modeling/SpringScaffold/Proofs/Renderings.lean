import SpringScaffold.Proofs.Identifiers
import SpringScaffold.Proofs.Separators

/-! The casings of an ASCII name are renderings of one list of words, the words of the name in small
letters (`Name.exists_renders`). A text whose letters have one case has no humps, so words that are
joined by underscores are found again as they are (`Name.wordsOf_intercalate`). Hence the small and
the capital rendering lead back to the list that they were made from. -/

namespace SpringScaffold

namespace Text

theorem map_intercalate (f : Char → Char) (sep : List Char) (ws : List (List Char)) :
    (sep.intercalate ws).map f = (sep.map f).intercalate (ws.map (List.map f)) := by
  induction ws with
  | nil => rfl
  | cons w ws ih =>
    cases ws with
    | nil => simp
    | cons v ws => simpa using ih

end Text

open Text

namespace Name

/-! ### Words without humps -/

/-- All letters of the word that have a case have the same one. -/
def IsFlat (w : List Char) : Prop :=
  (∀ c ∈ w, isUppercase c = false) ∨ ∀ c ∈ w, isLowercase c = false

theorem next_ne_lower {h : Hump} (hh : h ≠ .lower) {c : Char} (hc : isLowercase c = false) :
    h.next c ≠ .lower := by
  rw [Hump.next, hc]
  cases isUppercase c <;> simp [hh]

/-- A word is cut behind a small letter and before one, each time next to a capital. Where only the
case of what was read before could make the first kind of cut, that case is not small. -/
theorem humps_eq_singleton {h : Hump} {word cs : List Char} (hne : word ++ cs ≠ [])
    (hflat : (∀ c ∈ cs, isUppercase c = false) ∨
      h ≠ .lower ∧ ∀ c ∈ cs, isLowercase c = false) :
    humps h word cs = [word.reverse ++ cs] := by
  fun_induction humps h word cs with
  | case1 => exact absurd rfl hne
  | case2 => simp
  | case3 => simp
  | case4 h word c d rest hcut ih =>
    simp only [Bool.and_eq_true, decide_eq_true_eq] at hcut
    exfalso
    rcases hflat with hsmall | ⟨hh, hcapital⟩
    · simp [hsmall d (by simp)] at hcut
    · exact next_ne_lower hh (hcapital c List.mem_cons_self) hcut.1
  | case5 h word c d rest _ hcut ih =>
    simp only [Bool.and_eq_true, decide_eq_true_eq] at hcut
    exfalso
    rcases hflat with hsmall | ⟨-, hcapital⟩
    · simp [hsmall c List.mem_cons_self] at hcut
    · simp [hcapital d (by simp)] at hcut
  | case6 h word c d rest _ _ ih =>
    have hrest : (∀ e ∈ d :: rest, isUppercase e = false) ∨
        h.next c ≠ .lower ∧ ∀ e ∈ d :: rest, isLowercase e = false := by
      refine hflat.imp (fun hsmall => (List.forall_mem_cons.1 hsmall).2) ?_
      rintro ⟨hh, hcapital⟩
      obtain ⟨hc, hrest⟩ := List.forall_mem_cons.1 hcapital
      exact ⟨next_ne_lower hh hc, hrest⟩
    rw [ih (by simp) hrest, List.reverse_cons, List.append_assoc, List.singleton_append]

theorem humps_of_isFlat {w : List Char} (hne : w ≠ []) (hflat : IsFlat w) :
    humps .boundary [] w = [w] :=
  humps_eq_singleton hne (hflat.imp_right fun hcapital => ⟨by decide, hcapital⟩)

/-- Words that are joined by underscores are found again. -/
theorem wordsOf_intercalate {ws : List (List Char)} (hne : ws ≠ [])
    (hruns : ∀ w ∈ ws, IsRun isAlphanumeric w) (hflat : ∀ w ∈ ws, IsFlat w) :
    wordsOf (['_'].intercalate ws) = ws := by
  have hjoined := runs_intercalate (c := '_') (by decide) hruns
  have hkept : (['_'].intercalate ws).filter isAlphanumeric ≠ [] := by
    rwa [ne_eq, ← runs_eq_nil_iff, hjoined]
  have hhumps : ws.map (humps .boundary []) = ws.map fun w => [w] :=
    List.map_congr_left fun w hw => humps_of_isFlat (hruns w hw).1 (hflat w hw)
  rw [wordsOf, runs_sanitize, if_neg hkept, hjoined, List.flatMap_def, hhumps, ← List.flatMap_def,
    List.flatMap_singleton']

/-! ### Renderings -/

/-- A word of small ASCII letters and digits. -/
structure IsSmallWord (w : List Char) : Prop where
  ne_nil : w ≠ []
  chars : ∀ c ∈ w, (isAsciiLower c || isAsciiDigit c) = true

/-- The word with its first character in upper case. -/
def titled : List Char → List Char
  | [] => []
  | c :: rest => c.toUpper :: rest

/-- The first word as it is and the others titled, all in one. -/
def humped : List (List Char) → List Char
  | [] => []
  | w :: ws => w ++ ws.flatMap titled

/-- The casings of the name are renderings of the words. -/
structure Renders (n : Name) (ws : List (List Char)) : Prop where
  snake : n.snake.toList = ['_'].intercalate ws
  shouty : n.shouty.toList = n.snake.toList.map Char.toUpper
  pascal : n.pascal.toList = ws.flatMap titled
  camel : n.camel = escapeReserved (String.ofList (humped ws))

theorem Renders.sameCasings {m n : Name} {ws : List (List Char)} (hm : m.Renders ws)
    (hn : n.Renders ws) : m.SameCasings n := by
  have hsnake : m.snake.toList = n.snake.toList := hm.snake.trans hn.snake.symm
  refine ⟨?_, hm.camel.trans hn.camel.symm, String.toList_inj.1 hsnake, ?_⟩
  · exact String.toList_inj.1 (hm.pascal.trans hn.pascal.symm)
  · rw [← String.toList_inj, hm.shouty, hn.shouty, hsnake]

/-! ### ASCII letters -/

section Words

variable {w : List Char}

theorem lowerWord_eq_map (hw : ∀ c ∈ w, isAsciiAlphanumeric c = true) :
    lowerWord w = w.map Char.toLower := by
  have hchar : ∀ {c}, isAsciiAlphanumeric c = true → lowerChar c = [c.toLower] :=
    forall_isAsciiAlphanumeric (P := fun c => lowerChar c = [c.toLower]) (by decide)
  fun_induction lowerWord w with
  | case1 => rfl
  | case2 => exact absurd (hw 'Σ' List.mem_cons_self) (by decide)
  | case3 c rest _ ih =>
    obtain ⟨hc, hrest⟩ := List.forall_mem_cons.1 hw
    rw [ih hrest, hchar hc, List.map_cons, List.singleton_append]

theorem upperChar_eq {c : Char} (hc : isAsciiAlphanumeric c = true) : upperChar c = [c.toUpper] :=
  forall_isAsciiAlphanumeric (P := fun c => upperChar c = [c.toUpper]) (by decide) hc

theorem upperWord_eq_map (hw : ∀ c ∈ w, isAsciiAlphanumeric c = true) :
    upperWord w = w.map Char.toUpper := by
  induction w with
  | nil => rfl
  | cons c rest ih =>
    obtain ⟨hc, hrest⟩ := List.forall_mem_cons.1 hw
    rw [upperWord] at ih ⊢
    rw [List.flatMap_cons, ih hrest, upperChar_eq hc, List.map_cons, List.singleton_append]

theorem toUpper_toLower {c : Char} (hc : isAsciiAlphanumeric c = true) :
    c.toLower.toUpper = c.toUpper :=
  forall_isAsciiAlphanumeric (P := fun c => c.toLower.toUpper = c.toUpper) (by decide) hc

theorem map_toUpper_lowerWord (hw : ∀ c ∈ w, isAsciiAlphanumeric c = true) :
    (lowerWord w).map Char.toUpper = upperWord w := by
  rw [lowerWord_eq_map hw, upperWord_eq_map hw, List.map_map]
  exact List.map_congr_left fun c hc => toUpper_toLower (hw c hc)

theorem titled_lowerWord (hw : ∀ c ∈ w, isAsciiAlphanumeric c = true) :
    titled (lowerWord w) = capitalizeWord w := by
  cases w with
  | nil => rfl
  | cons c rest =>
    obtain ⟨hc, hrest⟩ := List.forall_mem_cons.1 hw
    rw [capitalizeWord, lowerWord_eq_map hw, lowerWord_eq_map hrest, upperChar_eq hc, List.map_cons,
      titled, toUpper_toLower hc, List.singleton_append]

theorem isSmallWord_lowerWord (hne : w ≠ []) (hw : ∀ c ∈ w, isAsciiAlphanumeric c = true) :
    IsSmallWord (lowerWord w) := by
  rw [lowerWord_eq_map hw]
  refine ⟨by simpa using hne, fun d hd => ?_⟩
  obtain ⟨c, hc, rfl⟩ := List.mem_map.1 hd
  exact forall_isAsciiAlphanumeric
    (P := fun c => (isAsciiLower c.toLower || isAsciiDigit c.toLower) = true) (by decide) (hw c hc)

end Words

/-- Some words, none of them empty, of ASCII letters and digits. -/
structure AreAsciiWords (ws : List (List Char)) : Prop where
  ne_nil : ws ≠ []
  words : ∀ w ∈ ws, w ≠ [] ∧ ∀ c ∈ w, isAsciiAlphanumeric c = true

theorem areAsciiWords_wordsOf {cs : List Char} (hascii : ∀ c ∈ cs, c.toNat < 128) :
    AreAsciiWords (wordsOf cs) where
  ne_nil := wordsOf_ne_nil cs
  words _ hw :=
    ⟨fun he => nil_notMem_wordsOf cs (he ▸ hw), isAsciiAlphanumeric_of_mem_wordsOf hascii hw⟩

namespace AreAsciiWords

variable {ws : List (List Char)} (h : AreAsciiWords ws)

include h

theorem map_recase {recase : List Char → List Char} {f : Char → Char}
    (hrecase : ∀ {w : List Char}, (∀ c ∈ w, isAsciiAlphanumeric c = true) → recase w = w.map f) :
    ws.map recase = ws.map (List.map f) :=
  List.map_congr_left fun w hw => hrecase (h.words w hw).2

theorem map_upperWord : ws.map upperWord = (ws.map lowerWord).map (List.map Char.toUpper) := by
  rw [List.map_map]
  exact List.map_congr_left fun w hw => (map_toUpper_lowerWord (h.words w hw).2).symm

theorem flatMap_titled : (ws.map lowerWord).flatMap titled = ws.flatMap capitalizeWord := by
  rw [List.flatMap_map, List.flatMap_def, List.flatMap_def]
  exact congrArg List.flatten (List.map_congr_left fun w hw => titled_lowerWord (h.words w hw).2)

theorem humped_lowerWord {w : List Char} {rest : List (List Char)} (hws : ws = w :: rest) :
    humped (ws.map lowerWord) = lowerWord w ++ rest.flatMap capitalizeWord := by
  cases hws
  have hfirst : titled (lowerWord w) = capitalizeWord w :=
    titled_lowerWord (h.words w List.mem_cons_self).2
  have hall := h.flatMap_titled
  rw [List.map_cons, List.flatMap_cons, List.flatMap_cons, hfirst, List.append_cancel_left_eq]
    at hall
  rw [List.map_cons, humped, hall]

end AreAsciiWords

theorem renders_lowerWord {n : Name} (h : AreAsciiWords (wordsOf n.written.toList)) :
    n.Renders ((wordsOf n.written.toList).map lowerWord) := by
  have hsnake : n.snake.toList = ['_'].intercalate ((wordsOf n.written.toList).map lowerWord) := by
    rw [Name.snake, String.toList_ofList, snakeOf]
  refine ⟨hsnake, ?_, ?_, ?_⟩
  · rw [hsnake, map_intercalate, ← h.map_upperWord, Name.shouty, String.toList_ofList, shoutyOf]
    rfl
  · rw [Name.pascal, String.toList_ofList, pascalOf, h.flatMap_titled]
  · rw [Name.camel, camelOf]
    split
    · next hnil => exact absurd hnil h.ne_nil
    · next w rest hws => rw [h.humped_lowerWord hws]

/-- Brings all letters into one case, from which they can be brought into small letters still. -/
structure Flattens (f : Char → Char) : Prop where
  isAlphanumeric : ∀ c, isAsciiAlphanumeric c = true → isAsciiAlphanumeric (f c) = true
  toLower : ∀ c, isAsciiAlphanumeric c = true → (f c).toLower = c.toLower
  flat : (∀ c, isAsciiAlphanumeric c = true → isUppercase (f c) = false) ∨
    ∀ c, isAsciiAlphanumeric c = true → isLowercase (f c) = false

theorem flattens_toLower : Flattens Char.toLower where
  isAlphanumeric _ := forall_isAsciiAlphanumeric
    (P := fun c => isAsciiAlphanumeric c.toLower = true) (by decide)
  toLower _ := forall_isAsciiAlphanumeric
    (P := fun c => c.toLower.toLower = c.toLower) (by decide)
  flat := .inl fun _ => forall_isAsciiAlphanumeric
    (P := fun c => isUppercase c.toLower = false) (by decide)

theorem flattens_toUpper : Flattens Char.toUpper where
  isAlphanumeric _ := forall_isAsciiAlphanumeric
    (P := fun c => isAsciiAlphanumeric c.toUpper = true) (by decide)
  toLower _ := forall_isAsciiAlphanumeric
    (P := fun c => c.toUpper.toLower = c.toLower) (by decide)
  flat := .inr fun _ => forall_isAsciiAlphanumeric
    (P := fun c => isLowercase c.toUpper = false) (by decide)

namespace Flattens

variable {f : Char → Char} (hf : Flattens f) {ws : List (List Char)}

include hf

theorem areAsciiWords (h : AreAsciiWords ws) : AreAsciiWords (ws.map (List.map f)) where
  ne_nil := by simpa using h.ne_nil
  words := List.forall_mem_map.2 fun w hw => ⟨by simpa using (h.words w hw).1,
    List.forall_mem_map.2 fun c hc => hf.isAlphanumeric c ((h.words w hw).2 c hc)⟩

theorem isFlat {w : List Char} (hw : ∀ c ∈ w, isAsciiAlphanumeric c = true) :
    IsFlat (w.map f) := by
  rcases hf.flat with hsmall | hcapital
  · exact .inl (List.forall_mem_map.2 fun c hc => hsmall c (hw c hc))
  · exact .inr (List.forall_mem_map.2 fun c hc => hcapital c (hw c hc))

theorem map_lowerWord (h : AreAsciiWords ws) :
    (ws.map (List.map f)).map lowerWord = ws.map lowerWord := by
  rw [(hf.areAsciiWords h).map_recase lowerWord_eq_map, h.map_recase lowerWord_eq_map, List.map_map]
  refine List.map_congr_left fun w hw => ?_
  rw [Function.comp_apply, List.map_map]
  exact List.map_congr_left fun c hc => hf.toLower c ((h.words w hw).2 c hc)

/-- The words in one case and joined by underscores lead back to the words in small letters. -/
theorem renders (h : AreAsciiWords ws) {n : Name}
    (hn : n.written.toList = ['_'].intercalate (ws.map (List.map f))) :
    n.Renders (ws.map lowerWord) := by
  have hrecased := hf.areAsciiWords h
  have hruns : ∀ w ∈ ws.map (List.map f), IsRun Text.isAlphanumeric w := by
    intro w hw
    obtain ⟨hne, hchars⟩ := hrecased.words w hw
    refine ⟨hne, fun c hc => ?_⟩
    rw [isAlphanumeric_of_lt (lt_of_isAsciiAlphanumeric (hchars c hc)), hchars c hc]
  have hflat : ∀ w ∈ ws.map (List.map f), IsFlat w :=
    List.forall_mem_map.2 fun w hw => hf.isFlat (h.words w hw).2
  have hwords : wordsOf n.written.toList = ws.map (List.map f) := by
    rw [hn, wordsOf_intercalate hrecased.ne_nil hruns hflat]
  have hrenders := renders_lowerWord (n := n) (by rwa [hwords])
  rwa [hwords, hf.map_lowerWord h] at hrenders

end Flattens

/-- The casings of an ASCII name render one list of words, and the name that is written like its
rendering with underscores, in small letters or in capitals, renders the same list. -/
theorem exists_renders (n : Name) (hascii : ∀ c ∈ n.written.toList, c.toNat < 128) :
    ∃ ws, ws ≠ [] ∧ (∀ w ∈ ws, IsSmallWord w) ∧ n.Renders ws ∧
      ∀ again ∈ [n.snake, n.shouty],
        (Name.mk again).Renders ws ∧ (Name.mk again).SameCasings n := by
  have h := areAsciiWords_wordsOf hascii
  have hn := renders_lowerWord h
  have hsnake : (Name.mk n.snake).Renders _ := flattens_toLower.renders h (by
    rw [hn.snake, h.map_recase lowerWord_eq_map])
  have hshouty : (Name.mk n.shouty).Renders _ := flattens_toUpper.renders h (by
    rw [Name.shouty, String.toList_ofList, shoutyOf, h.map_recase upperWord_eq_map])
  refine ⟨_, by simpa using h.ne_nil, ?_, hn, ?_⟩
  · exact List.forall_mem_map.2 fun w hw =>
      isSmallWord_lowerWord (h.words w hw).1 (h.words w hw).2
  · rw [List.forall_mem_cons, List.forall_mem_singleton]
    exact ⟨⟨hsnake, hsnake.sameCasings hn⟩, hshouty, hshouty.sameCasings hn⟩

theorem exists_renders_httpServer :
    (∀ c ∈ "HTTPServer2go--APIByte".toList, c.toNat < 128) ∧
      ∃ ws, ws ≠ [] ∧ (∀ w ∈ ws, IsSmallWord w) ∧
        Renders ⟨"HTTPServer2go--APIByte"⟩ ws ∧ Renders ⟨"http_server2go_api_byte"⟩ ws ∧
        Renders ⟨"HTTP_SERVER2GO_API_BYTE"⟩ ws := by
  have hascii : ∀ c ∈ "HTTPServer2go--APIByte".toList, c.toNat < 128 := by
    have hall : "HTTPServer2go--APIByte".toList.all (fun c => c.toNat < 128) = true := by decide
    exact fun c hc => of_decide_eq_true (List.all_eq_true.1 hall c hc)
  obtain ⟨ws, hne, hsmall, hn, hagain⟩ := exists_renders ⟨"HTTPServer2go--APIByte"⟩ hascii
  have hvalues : [snake ⟨"HTTPServer2go--APIByte"⟩, shouty ⟨"HTTPServer2go--APIByte"⟩] =
      ["http_server2go_api_byte", "HTTP_SERVER2GO_API_BYTE"] := by
    decide
  rw [hvalues] at hagain
  exact ⟨hascii, ws, hne, hsmall, hn, (hagain _ (by simp)).1, (hagain _ (by simp)).1⟩

end Name

end SpringScaffold
