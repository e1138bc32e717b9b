import Mathlib.Data.List.DropRight
import SpringScaffold.Json.Printer
import SpringScaffold.Proofs.Numerals

/-! Reading a JSON text that was written gives back the tree of the value, on one line as well as
indented (`read_compact`, `read_pretty`). A text spells a tree if the reader gives that tree and
stops right behind the text, given enough fuel. -/

namespace SpringScaffold

/-- A value without floating-point numbers. -/
inductive Value.FloatFree : Value → Prop where
  | null : FloatFree .null
  | bool (b : Bool) : FloatFree (.bool b)
  | integer (i : Int) : FloatFree (.number (.integer i))
  | text (s : String) : FloatFree (.text s)
  | list {items : List Value} : (∀ v ∈ items, FloatFree v) → FloatFree (.list items)
  | object {members : List (String × Value)} :
    (∀ m ∈ members, FloatFree m.2) → FloatFree (.object members)

namespace Json

/-! ### Quoted texts -/

theorem hexValue?_hexDigit {n : Nat} (h : n < 16) : hexValue? (hexDigit n) = some n := by
  have hall : ∀ k : Fin 16, hexValue? (hexDigit k) = some k.val := by decide
  exact hall ⟨n, h⟩

/-- What an escaped character is read as. -/
theorem exists_written (c : Char) :
    ∃ w, (∀ acc rest, readWritten acc (escapeChar c ++ rest) = readWritten (w :: acc) rest) ∧
      ∀ ws, denote? (w :: ws) = (denote? ws).map (c :: ·) := by
  have hchar : ∀ n, c.toNat = n → Char.ofNat n = c := fun n hn => hn ▸ Char.ofNat_toNat c
  unfold escapeChar
  split
  · next h => exact ⟨.char '"', fun _ _ => rfl, fun _ => by rw [h]; rfl⟩
  split
  · next h => exact ⟨.char '\\', fun _ _ => rfl, fun _ => by rw [h]; rfl⟩
  split
  · next h => exact ⟨.char (Char.ofNat 8), fun _ _ => rfl, fun _ => by rw [← hchar 8 h]; rfl⟩
  split
  · next h => exact ⟨.char '\t', fun _ _ => rfl, fun _ => by rw [← hchar 9 h]; rfl⟩
  split
  · next h => exact ⟨.char '\n', fun _ _ => rfl, fun _ => by rw [← hchar 10 h]; rfl⟩
  split
  · next h => exact ⟨.char (Char.ofNat 12), fun _ _ => rfl, fun _ => by rw [← hchar 12 h]; rfl⟩
  split
  · next h => exact ⟨.char '\r', fun _ _ => rfl, fun _ => by rw [← hchar 13 h]; rfl⟩
  split
  · next h =>
    have hhigh := hexValue?_hexDigit (n := c.toNat / 16) (by omega)
    have hlow := hexValue?_hexDigit (n := c.toNat % 16) (by omega)
    have hzero : hexValue? '0' = some 0 := by decide
    have hcode : ((0 * 16 + 0) * 16 + c.toNat / 16) * 16 + c.toNat % 16 = c.toNat := by omega
    refine ⟨.code c.toNat, fun acc rest => ?_, fun ws => ?_⟩
    · simp only [List.cons_append, List.nil_append]
      rw [readWritten, hzero, hhigh, hlow]
      simp only [Option.bind_eq_bind, Option.bind_some, hcode]
    · have hlowSurrogate : isLowSurrogate c.toNat = false := by
        simp only [isLowSurrogate, Bool.and_eq_false_imp, decide_eq_true_eq]
        omega
      have hhighSurrogate : isHighSurrogate c.toNat = false := by
        simp only [isHighSurrogate, Bool.and_eq_false_imp, decide_eq_true_eq]
        omega
      rw [denote?.eq_def]
      simp [hlowSurrogate, hhighSurrogate, Char.ofNat_toNat]
  · next hquote hslash _ _ _ _ _ hcontrol =>
    refine ⟨.char c, fun acc rest => ?_, fun _ => rfl⟩
    rw [List.singleton_append, readWritten, if_neg hcontrol]
    · exact hquote
    · exact fun _ _ _ _ _ he => absurd he hslash
    · exact fun _ _ he => absurd he hslash

theorem readWritten_escaped (cs : List Char) (acc : List Written) (rest : List Char) :
    ∃ ws, readWritten acc (cs.flatMap escapeChar ++ '"' :: rest) = some (acc.reverse ++ ws, rest) ∧
      denote? ws = some cs := by
  induction cs generalizing acc with
  | nil => exact ⟨[], by simp [readWritten], rfl⟩
  | cons c cs ih =>
    obtain ⟨w, hread, hdenote⟩ := exists_written c
    obtain ⟨ws, hws, hcs⟩ := ih (w :: acc)
    refine ⟨w :: ws, ?_, by rw [hdenote, hcs]; rfl⟩
    rw [List.flatMap_cons, List.append_assoc, hread, hws]
    simp

/-- A quoted text is read up to its closing quote. -/
theorem readText_escaped (s : String) (rest : List Char) :
    readText (s.toList.flatMap escapeChar ++ '"' :: rest) = some (some s, rest) := by
  obtain ⟨ws, hws, hs⟩ := readWritten_escaped s.toList [] rest
  rw [readText, hws]
  simp [hs]

theorem quote_append (s : String) (rest : List Char) :
    (quote s).toList ++ rest = '"' :: (s.toList.flatMap escapeChar ++ '"' :: rest) := by
  simp [quote]

/-! ### Blanks -/

def Blanks (cs : List Char) : Prop := ∀ c ∈ cs, isBlank c = true

theorem blanks_nil : Blanks [] := fun _ h => absurd h List.not_mem_nil

theorem skipBlanks_of_not {c : Char} (h : isBlank c = false) (cs : List Char) :
    skipBlanks (c :: cs) = c :: cs := by simp [skipBlanks, h]

theorem Blanks.skip {blanks : List Char} (h : Blanks blanks) (cs : List Char) :
    skipBlanks (blanks ++ cs) = skipBlanks cs := List.dropWhile_append_of_pos h

theorem skipBlanks_skipBlanks (cs : List Char) : skipBlanks (skipBlanks cs) = skipBlanks cs :=
  List.dropWhile_idempotent isBlank cs

theorem readTree_skipBlanks (fuel : Nat) (cs : List Char) :
    readTree fuel (skipBlanks cs) = readTree fuel cs := by
  cases fuel with
  | zero => rfl
  | succ fuel => rw [readTree, readTree, skipBlanks_skipBlanks]

theorem readItems_skipBlanks (fuel : Nat) (cs : List Char) :
    readItems fuel (skipBlanks cs) = readItems fuel cs := by
  cases fuel with
  | zero => rfl
  | succ fuel => rw [readItems, readItems, readTree_skipBlanks]

/-! ### Values -/

/-- The text is read as the tree, whatever follows that is no part of a number. -/
def Spells (cs : List Char) (t : Tree) : Prop :=
  ∀ fuel rest, 2 * cs.length ≤ fuel → EndsNumber rest → readTree fuel (cs ++ rest) = (t, some rest)

/-- Reading takes fuel. -/
theorem spells_of_cons {c : Char} {cs : List Char} {t : Tree}
    (h : ∀ fuel rest, 2 * cs.length + 1 ≤ fuel → EndsNumber rest →
      readTree (fuel + 1) (c :: (cs ++ rest)) = (t, some rest)) : Spells (c :: cs) t := by
  intro fuel rest hfuel hrest
  rw [List.length_cons] at hfuel
  obtain ⟨fuel, rfl⟩ : ∃ n, fuel = n + 1 := ⟨fuel - 1, by omega⟩
  exact h fuel rest (by omega) hrest

theorem Blanks.spells {blanks cs : List Char} {t : Tree} (hblanks : Blanks blanks)
    (h : Spells cs t) : Spells (blanks ++ cs) t := by
  intro fuel rest hfuel hrest
  rw [List.length_append] at hfuel
  rw [List.append_assoc, ← readTree_skipBlanks, hblanks.skip, readTree_skipBlanks]
  exact h fuel rest (by omega) hrest

theorem spells_null : Spells ['n', 'u', 'l', 'l'] .null :=
  spells_of_cons fun fuel rest _ _ => by
    simp [readTree, skipBlanks, isBlank, readWord]
    rfl

theorem spells_true : Spells ['t', 'r', 'u', 'e'] (.bool true) :=
  spells_of_cons fun fuel rest _ _ => by
    simp [readTree, skipBlanks, isBlank, readWord]
    rfl

theorem spells_false : Spells ['f', 'a', 'l', 's', 'e'] (.bool false) :=
  spells_of_cons fun fuel rest _ _ => by
    simp [readTree, skipBlanks, isBlank, readWord]
    rfl

theorem spells_text (s : String) : Spells (quote s).toList (.text (some s)) := by
  have hquote := quote_append s []
  rw [List.append_nil] at hquote
  rw [hquote]
  refine spells_of_cons fun fuel rest _ _ => ?_
  rw [readTree, skipBlanks_of_not rfl]
  simp [readText_escaped]

theorem spells_integer (i : Int) : Spells (toString i).toList (.number (.ofInt i)) := by
  have hnumeral : ∀ rest, EndsNumber rest →
      readNumeral ((toString i).toList ++ rest) = some (.ofInt i, rest) :=
    fun _ hrest => readNumeral_toString i hrest
  obtain ⟨c, cs, hcs, hc⟩ := exists_digit_or_minus i
  rw [hcs] at hnumeral ⊢
  refine spells_of_cons fun fuel rest _ hrest => ?_
  have hother : isBlank c = false ∧ c ≠ '"' ∧ c ≠ '[' ∧ c ≠ '\x7b' ∧ c ≠ 'n' ∧ c ≠ 't' ∧
      c ≠ 'f' := by
    have hne : ∀ d, isDigit d = false → d ≠ '-' → c ≠ d := by
      rintro d hdigit hminus rfl
      rcases hc with hc | hc
      · cases hc.symm.trans hdigit
      · exact hminus hc
    have hblank : isBlank c = false := by
      simp [isBlank, hne ' ' rfl (by decide), hne '\n' rfl (by decide), hne '\t' rfl (by decide),
        hne '\r' rfl (by decide)]
    exact ⟨hblank, hne _ rfl (by decide), hne _ rfl (by decide), hne _ rfl (by decide),
      hne _ rfl (by decide), hne _ rfl (by decide), hne _ rfl (by decide)⟩
  obtain ⟨hblank, hquote, hbracket, hbrace, hn, ht, hf⟩ := hother
  rw [readTree, skipBlanks_of_not hblank]
  simp only [hquote, hbracket, hbrace, hn, ht, hf, if_false]
  rw [← List.cons_append, hnumeral rest hrest]

/-! ### Lists -/

/-- What stands behind a value inside a list or an object ends a number. -/
theorem Blanks.endsNumber {blanks : List Char} (h : Blanks blanks) {c : Char}
    {rest : List Char} (hc : EndsNumber (c :: rest)) : EndsNumber (blanks ++ c :: rest) := by
  cases blanks with
  | nil => exact hc
  | cons b blanks =>
    intro d hd
    obtain rfl : b = d := Option.some.inj hd
    have hblank := h b List.mem_cons_self
    have hne : ∀ d, isBlank d = false → b ≠ d := by
      rintro d hd rfl
      cases hblank.symm.trans hd
    simp only [isBlank, Bool.or_eq_true, beq_iff_eq] at hblank
    refine ⟨?_, hne _ rfl, hne _ rfl, hne _ rfl⟩
    rcases hblank with ((rfl | rfl) | rfl) | rfl <;> rfl

theorem endsNumber_bracket (rest : List Char) : EndsNumber (']' :: rest) := by
  simp [EndsNumber, isDigit]

theorem endsNumber_brace (rest : List Char) : EndsNumber ('\x7d' :: rest) := by
  simp [EndsNumber, isDigit]

theorem endsNumber_comma (rest : List Char) : EndsNumber (',' :: rest) := by
  simp [EndsNumber, isDigit]

/-- The text with the bracket behind it is read as the items. -/
def SpellsItems (cs : List Char) (ts : List Tree) : Prop :=
  ∀ fuel rest, 2 * cs.length + 1 ≤ fuel → readItems fuel (cs ++ ']' :: rest) = (ts, some rest)

theorem Spells.lastItem {cs after : List Char} {t : Tree} (h : Spells cs t)
    (hafter : Blanks after) : SpellsItems (cs ++ after) [t] := by
  intro fuel rest hfuel
  rw [List.length_append] at hfuel
  obtain ⟨fuel, rfl⟩ : ∃ n, fuel = n + 1 := ⟨fuel - 1, by omega⟩
  rw [List.append_assoc, readItems,
    h fuel _ (by omega) (hafter.endsNumber (endsNumber_bracket rest))]
  simp only [hafter.skip, skipBlanks_of_not (c := ']') rfl]

/-- What is read as items does not start with the bracket that ends them. -/
theorem ne_bracket_of_readItems {fuel : Nat} {cs : List Char} {ts : List Tree} {rest : List Char}
    (h : readItems fuel cs = (ts, some rest)) (tail : List Char) : skipBlanks cs ≠ ']' :: tail := by
  intro htail
  rw [← readItems_skipBlanks, htail] at h
  have hbroken : ∀ n, readTree n (']' :: tail) = (.broken, none) := by
    intro n
    cases n with
    | zero => rfl
    | succ n => simp [readTree, skipBlanks, isBlank, readNumeral, readUnsigned, digits, isDigit]
  cases fuel with
  | zero => cases h
  | succ fuel =>
    rw [readItems, hbroken] at h
    cases h

theorem Spells.consItem {cs ds : List Char} {t : Tree} {ts : List Tree} (h : Spells cs t)
    (hrest : SpellsItems ds ts) : SpellsItems (cs ++ ',' :: ds) (t :: ts) := by
  intro fuel rest hfuel
  rw [List.length_append, List.length_cons] at hfuel
  obtain ⟨fuel, rfl⟩ : ∃ n, fuel = n + 1 := ⟨fuel - 1, by omega⟩
  have hitems := hrest fuel rest (by omega)
  -- not named again: `simp only` takes it from the context to pass over the branch of a bracket
  have hbracket := ne_bracket_of_readItems hitems
  rw [← readItems_skipBlanks] at hitems
  rw [List.append_assoc, List.cons_append, readItems, h fuel _ (by omega) (endsNumber_comma _)]
  simp only [skipBlanks_of_not (c := ',') rfl]
  rw [hitems]

theorem spells_emptyList : Spells ['[', ']'] (.list [] true) :=
  spells_of_cons fun fuel rest _ _ => by simp [readTree, skipBlanks, isBlank]

theorem SpellsItems.list {cs : List Char} {ts : List Tree} (h : SpellsItems cs ts) :
    Spells ('[' :: (cs ++ [']'])) (.list ts true) := by
  refine spells_of_cons fun fuel rest hfuel _ => ?_
  rw [List.length_append] at hfuel
  have hitems := h fuel rest (by omega)
  have hbracket := ne_bracket_of_readItems hitems
  rw [← readItems_skipBlanks] at hitems
  rw [readTree, skipBlanks_of_not rfl, List.append_assoc, List.singleton_append]
  simp only [Char.reduceEq, if_false, if_true, hitems]

/-! ### Objects -/

/-- The text with the brace behind it starts with a quote, from behind which it is read as the
members. -/
def SpellsMembers (cs : List Char) (ms : List (Option String × Tree)) : Prop :=
  ∀ fuel rest, 2 * cs.length + 1 ≤ fuel → ∃ tail,
    skipBlanks (cs ++ '\x7d' :: rest) = '"' :: tail ∧ readMembers fuel tail = (ms, some rest)

/-- A key is read up to its colon. -/
theorem readMembers_key (fuel : Nat) (key : String) (cs : List Char) {t : Tree}
    {rest : List Char} (h : readTree fuel cs = (t, some rest)) :
    readMembers (fuel + 1) (key.toList.flatMap escapeChar ++ '"' :: ':' :: cs) =
      match skipBlanks rest with
      | '\x7d' :: rest => ([(some key, t)], some rest)
      | ',' :: rest =>
        match skipBlanks rest with
        | '"' :: rest =>
          let (ms, rest) := readMembers fuel rest
          ((some key, t) :: ms, rest)
        | _ => ([(some key, t)], none)
      | _ => ([(some key, t)], none) := by
  rw [readMembers, readText_escaped]
  simp only [skipBlanks_of_not (c := ':') rfl]
  generalize readTree fuel cs = out at h
  subst h
  rfl

/-- The text of a member. -/
def memberText (before : List Char) (key : String) (cs : List Char) : List Char :=
  before ++ (quote key).toList ++ ':' :: cs

theorem Blanks.skip_memberText {before : List Char} (hbefore : Blanks before) (key : String)
    (cs rest : List Char) : skipBlanks (memberText before key cs ++ rest) =
      '"' :: (key.toList.flatMap escapeChar ++ '"' :: ':' :: (cs ++ rest)) := by
  rw [memberText, List.append_assoc, List.append_assoc, hbefore.skip, quote_append,
    skipBlanks_of_not rfl, List.cons_append]

theorem length_memberText (before : List Char) (key : String) (cs : List Char) :
    cs.length + 1 ≤ (memberText before key cs).length := by
  simp only [memberText, List.length_append, List.length_cons]
  omega

theorem Spells.lastMember {before cs after : List Char} {t : Tree} (hbefore : Blanks before)
    (key : String) (h : Spells cs t) (hafter : Blanks after) :
    SpellsMembers (memberText before key cs ++ after) [(some key, t)] := by
  intro fuel rest hfuel
  have hlength := length_memberText before key cs
  rw [List.length_append] at hfuel
  obtain ⟨fuel, rfl⟩ : ∃ n, fuel = n + 1 := ⟨fuel - 1, by omega⟩
  rw [List.append_assoc]
  refine ⟨_, hbefore.skip_memberText key cs _, ?_⟩
  rw [readMembers_key fuel key _
    (h fuel _ (by omega) (hafter.endsNumber (endsNumber_brace rest)))]
  simp only [hafter.skip, skipBlanks_of_not (c := '\x7d') rfl]

theorem Spells.consMember {before cs ds : List Char} {t : Tree} {ms : List (Option String × Tree)}
    (hbefore : Blanks before) (key : String) (h : Spells cs t) (hrest : SpellsMembers ds ms) :
    SpellsMembers (memberText before key cs ++ ',' :: ds) ((some key, t) :: ms) := by
  intro fuel rest hfuel
  have hlength := length_memberText before key cs
  rw [List.length_append, List.length_cons] at hfuel
  obtain ⟨fuel, rfl⟩ : ∃ n, fuel = n + 1 := ⟨fuel - 1, by omega⟩
  obtain ⟨tail, htail, hmembers⟩ := hrest fuel rest (by omega)
  rw [List.append_assoc, List.cons_append]
  refine ⟨_, hbefore.skip_memberText key cs _, ?_⟩
  rw [readMembers_key fuel key _ (h fuel _ (by omega) (endsNumber_comma _))]
  simp only [skipBlanks_of_not (c := ',') rfl, htail, hmembers]

theorem spells_emptyObject : Spells ['\x7b', '\x7d'] (.object [] none) :=
  spells_of_cons fun fuel rest _ _ => by simp [readTree, skipBlanks, isBlank]

theorem SpellsMembers.object {cs : List Char} {ms : List (Option String × Tree)}
    (h : SpellsMembers cs ms) : Spells ('\x7b' :: (cs ++ ['\x7d'])) (.object ms none) := by
  refine spells_of_cons fun fuel rest hfuel _ => ?_
  rw [List.length_append] at hfuel
  obtain ⟨tail, htail, hmembers⟩ := h fuel rest (by omega)
  rw [readTree, skipBlanks_of_not rfl, List.append_assoc, List.singleton_append]
  simp only [Char.reduceEq, if_false, if_true, htail, hmembers]

/-! ### Printers -/

theorem spells_writtenBool (b : Bool) :
    Spells (if b then "true" else "false").toList (.bool b) := by
  cases b
  · exact spells_false
  · exact spells_true

theorem spells_compactItems {items : List Value} (hne : items ≠ [])
    (h : ∀ v ∈ items, Spells (compact v).toList (.ofValue v)) :
    SpellsItems (compactItems items).toList (Tree.ofValues items) := by
  induction items with
  | nil => exact absurd rfl hne
  | cons v rest ih =>
    obtain ⟨hv, hrest⟩ := List.forall_mem_cons.1 h
    cases rest with
    | nil =>
      have hlast := hv.lastItem blanks_nil
      simpa [compactItems, Tree.ofValues] using hlast
    | cons w rest =>
      have hlater := hv.consItem (ih (by simp) hrest)
      simpa [compactItems.eq_2 v, Tree.ofValues.eq_2 v] using hlater

theorem spells_compactMembers {ms : List (String × Value)} (hne : ms ≠ [])
    (h : ∀ m ∈ ms, Spells (compact m.2).toList (.ofValue m.2)) :
    SpellsMembers (compactMembers ms).toList (Tree.ofMembers ms) := by
  induction ms with
  | nil => exact absurd rfl hne
  | cons m rest ih =>
    obtain ⟨key, v⟩ := m
    obtain ⟨hv, hrest⟩ := List.forall_mem_cons.1 h
    cases rest with
    | nil =>
      have hlast := hv.lastMember blanks_nil key blanks_nil
      simpa [compactMembers, compactMember, Tree.ofMembers, Tree.ofMember, memberText] using hlast
    | cons n rest =>
      have hlater := hv.consMember blanks_nil key (ih (by simp) hrest)
      simpa [compactMembers.eq_2 (key, v), compactMember, Tree.ofMembers.eq_2 (key, v),
        Tree.ofMember, memberText] using hlater

theorem spells_compact {v : Value} (h : v.FloatFree) : Spells (compact v).toList (.ofValue v) := by
  induction h with
  | null => exact spells_null
  | bool b => exact spells_writtenBool b
  | integer i => exact spells_integer i
  | text s => exact spells_text s
  | @list items _ ih =>
    cases items with
    | nil => exact spells_emptyList
    | cons v rest =>
      have hlist := (spells_compactItems (by simp) ih).list
      simpa [compact, Tree.ofValue] using hlist
  | @object ms _ ih =>
    cases ms with
    | nil => exact spells_emptyObject
    | cons m rest =>
      have hobject := (spells_compactMembers (by simp) ih).object
      simpa [compact, Tree.ofValue] using hobject

theorem blanks_indentation (depth : Nat) : Blanks (indentation depth).toList := by
  intro c hc
  simp only [indentation, String.toList_ofList, List.mem_cons, List.mem_replicate] at hc
  rcases hc with rfl | ⟨-, rfl⟩ <;> rfl

theorem spells_prettyItems (depth : Nat) {after : List Char} (hafter : Blanks after)
    {items : List Value} (hne : items ≠ [])
    (h : ∀ v ∈ items, Spells (pretty depth v).toList (.ofValue v)) :
    SpellsItems ((prettyItems depth items).toList ++ after) (Tree.ofValues items) := by
  induction items with
  | nil => exact absurd rfl hne
  | cons v rest ih =>
    obtain ⟨hv, hrest⟩ := List.forall_mem_cons.1 h
    have hindented := (blanks_indentation depth).spells hv
    cases rest with
    | nil =>
      have hlast := hindented.lastItem hafter
      simpa [prettyItems, Tree.ofValues] using hlast
    | cons w rest =>
      have hlater := hindented.consItem (ih (by simp) hrest)
      simpa [prettyItems.eq_2 depth v, Tree.ofValues.eq_2 v] using hlater

theorem spells_prettyMembers (depth : Nat) {after : List Char} (hafter : Blanks after)
    {ms : List (String × Value)} (hne : ms ≠ [])
    (h : ∀ m ∈ ms, Spells (pretty depth m.2).toList (.ofValue m.2)) :
    SpellsMembers ((prettyMembers depth ms).toList ++ after) (Tree.ofMembers ms) := by
  induction ms with
  | nil => exact absurd rfl hne
  | cons m rest ih =>
    obtain ⟨key, v⟩ := m
    obtain ⟨hv, hrest⟩ := List.forall_mem_cons.1 h
    have hspaced : Spells (' ' :: (pretty depth v).toList) (.ofValue v) :=
      Blanks.spells (by simp [Blanks, isBlank] : Blanks [' ']) hv
    cases rest with
    | nil =>
      have hlast := hspaced.lastMember (blanks_indentation depth) key hafter
      simpa [prettyMembers, prettyMember, Tree.ofMembers, Tree.ofMember, memberText] using hlast
    | cons n rest =>
      have hlater := hspaced.consMember (blanks_indentation depth) key (ih (by simp) hrest)
      simpa [prettyMembers.eq_2 depth (key, v), prettyMember, Tree.ofMembers.eq_2 (key, v),
        Tree.ofMember, memberText] using hlater

theorem spells_pretty {v : Value} (h : v.FloatFree) (depth : Nat) :
    Spells (pretty depth v).toList (.ofValue v) := by
  induction h generalizing depth with
  | null =>
    rw [pretty]
    exact spells_null
  | bool b => exact spells_writtenBool b
  | integer i => exact spells_integer i
  | text s => exact spells_text s
  | @list items _ ih =>
    cases items with
    | nil =>
      rw [pretty]
      exact spells_emptyList
    | cons v rest =>
      have hlist := (spells_prettyItems (depth + 1) (blanks_indentation depth) (by simp)
        fun v hv => ih v hv (depth + 1)).list
      simpa [pretty, Tree.ofValue] using hlist
  | @object ms _ ih =>
    cases ms with
    | nil =>
      rw [pretty]
      exact spells_emptyObject
    | cons m rest =>
      have hobject := (spells_prettyMembers (depth + 1) (blanks_indentation depth) (by simp)
        fun m hm => ih m hm (depth + 1)).object
      simpa [pretty, Tree.ofValue] using hobject

theorem Spells.read {text : String} {t : Tree} (h : Spells text.toList t) :
    read text = (t, true) := by
  have hread := h (2 * text.toList.length + 2) [] (by omega) (by simp [EndsNumber])
  rw [List.append_nil] at hread
  rw [Json.read]
  simp only [hread]
  rfl

/-- A value that was written on one line is read back. -/
theorem read_compact {v : Value} (h : v.FloatFree) : read (compact v) = (.ofValue v, true) :=
  (spells_compact h).read

/-- A value that was written on indented lines is read back. -/
theorem read_pretty {v : Value} (h : v.FloatFree) (depth : Nat) :
    read (pretty depth v) = (.ofValue v, true) :=
  (spells_pretty h depth).read

end Json

end SpringScaffold
