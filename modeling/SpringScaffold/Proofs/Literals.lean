import SpringScaffold.Java.Text
import SpringScaffold.Json.Reader
import SpringScaffold.Proofs.Machine

/-! Texts as Java string literals. A file is read in two passes: Unicode escapes give code units
wherever they stand, and the units between two quotes give the value of a literal. The templates
escape quotes and nothing else, so a literal denotes the text it was made of exactly where that text
has no backslash and no line break (`Java.denoted?_literal_iff`). -/

namespace SpringScaffold

namespace Java

/-- The code units of a character in UTF-16. -/
def utf16 (c : Char) : List Nat :=
  if c.toNat < 0x10000 then [c.toNat]
  else [0xD800 + (c.toNat - 0x10000) / 0x400, 0xDC00 + (c.toNat - 0x10000) % 0x400]

def units (cs : List Char) : List Nat := cs.flatMap utf16

theorem units_cons (c : Char) (cs : List Char) : units (c :: cs) = utf16 c ++ units cs := rfl

theorem units_append (cs ds : List Char) : units (cs ++ ds) = units cs ++ units ds :=
  List.flatMap_append

theorem utf16_ne_nil (c : Char) : utf16 c ≠ [] := by
  unfold utf16
  split <;> simp

/-- The units of a character show where it ends: no character is a surrogate. -/
theorem utf16_append_inj {c d : Char} {us vs : List Nat} (h : utf16 c ++ us = utf16 d ++ vs) :
    c = d ∧ us = vs := by
  have hc : c.toNat < 0xD800 ∨ 0xDFFF < c.toNat ∧ c.toNat < 0x110000 := c.valid
  have hd : d.toNat < 0xD800 ∨ 0xDFFF < d.toNat ∧ d.toNat < 0x110000 := d.valid
  unfold utf16 at h
  split at h <;> split at h <;> simp only [List.cons_append, List.nil_append, List.cons.injEq] at h
  · exact ⟨Char.toNat_inj.1 h.1, h.2⟩
  -- The first of two units is a surrogate, so it is not the one unit of the other character.
  · omega
  · omega
  · obtain ⟨hhigh, hlow, hrest⟩ := h
    exact ⟨Char.toNat_inj.1 (by omega), hrest⟩

theorem units_injective : Function.Injective units := by
  intro cs ds h
  induction cs generalizing ds with
  | nil =>
    cases ds with
    | nil => rfl
    | cons d ds => exact absurd (List.append_eq_nil_iff.1 h.symm).1 (utf16_ne_nil d)
  | cons c cs ih =>
    cases ds with
    | nil => exact absurd (List.append_eq_nil_iff.1 h).1 (utf16_ne_nil c)
    | cons d ds =>
      obtain ⟨rfl, hrest⟩ := utf16_append_inj h
      rw [ih hrest]

/-! ### The passes -/

inductive Translation where
  | text
  /-- Behind a backslash that may begin a Unicode escape. -/
  | backslash
  /-- Within a Unicode escape, with the digits read so far. -/
  | code (value digits : Nat)
  deriving Repr, DecidableEq

/-- The first pass. A backslash begins a Unicode escape unless another one that does not begin one
comes right before it, and any number of `u` may follow it. -/
def translator : Machine Translation Char where
  step
    | .text, c => if c = '\\' then some ([], .backslash) else some (utf16 c, .text)
    | .backslash, c =>
      if c = 'u' then some ([], .code 0 0) else some ('\\'.toNat :: utf16 c, .text)
    | .code value digits, c =>
      if c = 'u' ∧ digits = 0 then some ([], .code 0 0)
      else (Json.hexValue? c).map fun d =>
        if digits = 3 then ([16 * value + d], .text) else ([], .code (16 * value + d) (digits + 1))
  finish
    | .text => some []
    | .backslash => some ['\\'.toNat]
    | .code _ _ => none

inductive Reading where
  | start
  | text
  /-- Behind the backslash of an escape sequence. -/
  | escape
  /-- Within an octal escape sequence that may have so many digits more. -/
  | octal (value room : Nat)
  | closed
  deriving Repr, DecidableEq

/-- The escape sequences of one character. -/
def escapes : List (Nat × Nat) := [
  ('b'.toNat, 0x08), ('t'.toNat, 0x09), ('n'.toNat, 0x0A), ('f'.toNat, 0x0C), ('r'.toNat, 0x0D),
  ('s'.toNat, 0x20), ('"'.toNat, 0x22), (0x27, 0x27), ('\\'.toNat, 0x5C)]

def octalValue? (u : Nat) : Option Nat :=
  if '0'.toNat ≤ u ∧ u ≤ '7'.toNat then some (u - '0'.toNat) else none

/-- A unit that no escape sequence is open for. -/
def readUnit (u : Nat) : Option (List Nat × Reading) :=
  if u = '"'.toNat then some ([], .closed)
  else if u = '\n'.toNat ∨ u = '\r'.toNat then none
  else if u = '\\'.toNat then some ([], .escape)
  else some ([u], .text)

/-- The second pass, over one literal from its opening quote to its closing one. -/
def reader : Machine Reading Nat where
  step
    | .start, u => if u = '"'.toNat then some ([], .text) else none
    | .text, u => readUnit u
    | .escape, u =>
      match escapes.lookup u with
      | some v => some ([v], .text)
      | none => (octalValue? u).map fun d => ([], .octal d (if d ≤ 3 then 2 else 1))
    | .octal value room, u =>
      match if room = 0 then none else octalValue? u with
      | some d => some ([], .octal (8 * value + d) (room - 1))
      | none => (readUnit u).map fun (out, next) => (value :: out, next)
    | .closed, _ => none
  finish
    | .closed => some []
    | _ => none

/-- The value of a text that is one string literal. -/
def denoted? (s : String) : Option (List Nat) :=
  (translator.run .text s.toList).bind (reader.run .start)

/-! ### Costs -/

/-- Quotes and backslashes count half: two of them make one unit of a value. -/
def weight (u : Nat) : Nat := if u = '"'.toNat ∨ u = '\\'.toNat then 1 else 2

def weigh (us : List Nat) : Nat := total weight us

theorem weight_le (u : Nat) : weight u ≤ 2 := by
  unfold weight
  split <;> omega

theorem weight_pos (u : Nat) : 0 < weight u := by
  unfold weight
  split <;> omega

/-- The weight that is read and not given out yet. -/
def Translation.owed : Translation → Nat
  | .text => 0
  | .backslash => 1
  | .code _ _ => 2

/-- The opening quote and what is read of an escape sequence, which no value shows. -/
def Reading.owed : Reading → Nat
  | .start => 0
  | .text => 1
  | .escape => 2
  | .octal _ _ => 3
  | .closed => 2

theorem weigh_cons (u : Nat) (us : List Nat) : weigh (u :: us) = weight u + weigh us := rfl

theorem weigh_append (us vs : List Nat) : weigh (us ++ vs) = weigh us + weigh vs :=
  total_append weight us vs

theorem weigh_units (cs : List Char) : weigh (units cs) = total (fun c => weigh (utf16 c)) cs := by
  induction cs with
  | nil => rfl
  | cons c cs ih =>
    rw [total, ← ih]
    exact weigh_append (utf16 c) (units cs)

theorem weigh_translator_step {s next : Translation} {c : Char} {out : List Nat}
    (h : translator.step s c = some (out, next)) :
    weigh out + next.owed ≤ s.owed + weigh (utf16 c) := by
  cases s with
  | text =>
    simp only [translator] at h
    split at h
    · next hc =>
      cases h
      rw [hc]
      decide
    · cases h
      change weigh (utf16 c) + 0 ≤ 0 + weigh (utf16 c)
      omega
  | backslash =>
    simp only [translator] at h
    split at h
    · next hc =>
      cases h
      rw [hc]
      decide
    · cases h
      have hbackslash : weight '\\'.toNat = 1 := by decide
      rw [weigh_cons, hbackslash]
      exact Nat.le_refl _
  | code value digits =>
    simp only [translator] at h
    split at h
    · cases h
      change 0 + 2 ≤ 2 + weigh (utf16 c)
      omega
    · obtain ⟨d, -, hd⟩ := Option.map_eq_some_iff.1 h
      split at hd
      · cases hd
        have hle := weight_le (16 * value + d)
        change weight (16 * value + d) + 0 ≤ 2 + weigh (utf16 c)
        omega
      · cases hd
        change 0 + 2 ≤ 2 + weigh (utf16 c)
        omega

theorem weigh_translator {t : Translation} {cs : List Char} {us : List Nat}
    (h : translator.run t cs = some us) : weigh us ≤ t.owed + weigh (units cs) := by
  rw [weigh_units]
  refine Machine.run_cost weight _ Translation.owed 0 ?_ ?_ h
  · exact fun s c out next hstep => weigh_translator_step hstep
  intro s out hfinish
  cases s with
  | text => cases hfinish; decide
  | backslash => cases hfinish; decide
  | code value digits => cases hfinish

theorem length_readUnit {u : Nat} {next : Reading} {out : List Nat}
    (h : readUnit u = some (out, next)) : 2 * out.length + next.owed ≤ 1 + weight u := by
  have hpos := weight_pos u
  unfold readUnit at h
  split at h
  · cases h
    change 0 + 2 ≤ 1 + weight u
    omega
  split at h
  · cases h
  split at h
  · cases h
    change 0 + 2 ≤ 1 + weight u
    omega
  · next hquote _ hbackslash =>
    cases h
    have htwo : weight u = 2 := by
      rw [weight, if_neg (not_or.2 ⟨hquote, hbackslash⟩)]
    change 2 + 1 ≤ 1 + weight u
    omega

theorem length_reader_step {s next : Reading} {u : Nat} {out : List Nat}
    (h : reader.step s u = some (out, next)) :
    2 * out.length + next.owed ≤ s.owed + weight u := by
  have hpos := weight_pos u
  cases s with
  | start =>
    simp only [reader] at h
    split at h
    · cases h
      change 0 + 1 ≤ 0 + weight u
      omega
    · cases h
  | text => exact length_readUnit h
  | escape =>
    simp only [reader] at h
    split at h
    · cases h
      change 2 + 1 ≤ 2 + weight u
      omega
    · obtain ⟨d, -, he⟩ := Option.map_eq_some_iff.1 h
      cases he
      change 0 + 3 ≤ 2 + weight u
      omega
  | octal value room =>
    simp only [reader] at h
    split at h
    · cases h
      change 0 + 3 ≤ 3 + weight u
      omega
    · -- The octal escape ends before the unit, which is read as if there were none.
      obtain ⟨⟨first, after⟩, hfirst, he⟩ := Option.map_eq_some_iff.1 h
      have hle := length_readUnit hfirst
      cases he
      change 2 * (first.length + 1) + after.owed ≤ 3 + weight u
      omega
  | closed => cases h

/-- The quotes of the literal are in no value. -/
theorem length_reader {us value : List Nat} (h : reader.run .start us = some value) :
    2 * value.length + 2 ≤ weigh us := by
  have hcost := Machine.run_cost (fun _ => 2) weight Reading.owed 2 ?_ ?_ h
  · rw [total_const, Reading.owed, Nat.zero_add] at hcost
    exact hcost
  · intro s u out next hstep
    rw [total_const]
    exact length_reader_step hstep
  · intro s out hfinish
    cases s with
    | closed => cases hfinish; decide
    | _ => cases hfinish

/-! ### Escaped texts -/

def escaped (cs : List Char) : List Char :=
  cs.flatMap fun c => if c = '"' then ['\\', '"'] else [c]

theorem escaped_cons_quote (cs : List Char) : escaped ('"' :: cs) = '\\' :: '"' :: escaped cs := rfl

theorem escaped_cons {c : Char} (hc : c ≠ '"') (cs : List Char) :
    escaped (c :: cs) = c :: escaped cs := by
  rw [escaped, List.flatMap_cons, if_neg hc]
  rfl

theorem toList_literal (s : String) : (literal s).toList = '"' :: (escaped s.toList ++ ['"']) := by
  simp [literal, escapeQuotes, escaped]

/-- Below the surrogates a unit is a character. -/
theorem toNat_mem_utf16 {c d : Char} (hd : d.toNat < 0xD800) : d.toNat ∈ utf16 c ↔ c = d := by
  unfold utf16
  split
  · rw [List.mem_singleton]
    constructor
    · intro h
      exact (Char.toNat_inj.1 h).symm
    · rintro rfl
      rfl
  · next hc =>
    simp only [List.mem_cons, List.not_mem_nil, or_false]
    constructor
    · intro h
      omega
    · rintro rfl
      omega

theorem weigh_utf16 {c : Char} (hquote : c ≠ '"') (hbackslash : c ≠ '\\') :
    weigh (utf16 c) = 2 * (utf16 c).length := by
  have hheavy : ∀ us : List Nat, '"'.toNat ∉ us → '\\'.toNat ∉ us → weigh us = 2 * us.length := by
    intro us h₁ h₂
    induction us with
    | nil => rfl
    | cons u us ih =>
      rw [List.mem_cons, not_or] at h₁ h₂
      have hu : weight u = 2 := by
        rw [weight, if_neg (by omega)]
      rw [weigh_cons, hu, ih h₁.2 h₂.2, List.length_cons]
      omega
  refine hheavy _ ?_ ?_
  · rw [toNat_mem_utf16 (by decide)]
    exact hquote
  · rw [toNat_mem_utf16 (by decide)]
    exact hbackslash

/-- A text loses the weight of a value with each backslash. -/
theorem weigh_escaped (cs : List Char) :
    weigh (units (escaped cs)) + cs.count '\\' = 2 * (units cs).length := by
  induction cs with
  | nil => rfl
  | cons c cs ih =>
    by_cases hquote : c = '"'
    · have hpair : weigh (utf16 '\\') + weigh (utf16 '"') = 2 * (utf16 '"').length := by decide
      rw [hquote, escaped_cons_quote, units_cons, units_cons, units_cons, weigh_append,
        weigh_append, List.length_append, List.count_cons_of_ne (by decide)]
      omega
    rw [escaped_cons hquote, units_cons, units_cons, weigh_append, List.length_append]
    by_cases hbackslash : c = '\\'
    · have hone : weigh (utf16 '\\') + 1 = 2 * (utf16 '\\').length := by decide
      rw [hbackslash, List.count_cons_self]
      omega
    · have hc := weigh_utf16 hquote hbackslash
      rw [List.count_cons_of_ne hbackslash]
      omega

/-! ### Line breaks -/

section LineBreaks

variable {c : Char} (hc : c = '\n' ∨ c = '\r')

include hc

theorem toNat_mem_of_translator {t : Translation} {cs : List Char} {us : List Nat} (hmem : c ∈ cs)
    (h : translator.run t cs = some us) : c.toNat ∈ us := by
  have hself : c.toNat ∈ utf16 c := by
    rcases hc with rfl | rfl <;> decide
  have hplain : c ≠ '\\' ∧ c ≠ 'u' ∧ Json.hexValue? c = none := by
    rcases hc with rfl | rfl <;> decide
  obtain ⟨hbackslash, hmark, hdigit⟩ := hplain
  have hstep : ∀ s out next, translator.step s c = some (out, next) → ∃ u ∈ out, u = c.toNat := by
    intro s out next hout
    cases s with
    | text =>
      simp only [translator, if_neg hbackslash] at hout
      cases hout
      exact ⟨_, hself, rfl⟩
    | backslash =>
      simp only [translator, if_neg hmark] at hout
      cases hout
      exact ⟨_, List.mem_cons_of_mem _ hself, rfl⟩
    | code value digits =>
      simp only [translator, hmark, false_and, if_false, hdigit] at hout
      cases hout
  obtain ⟨u, hu, rfl⟩ := Machine.exists_of_mem_run hstep hmem h
  exact hu

theorem toNat_notMem_of_reader {us value : List Nat} (h : reader.run .start us = some value) :
    c.toNat ∉ us := by
  intro hmem
  have hunit : readUnit c.toNat = none := by
    rcases hc with rfl | rfl <;> decide
  have hplain : c.toNat ≠ '"'.toNat ∧ escapes.lookup c.toNat = none ∧
      octalValue? c.toNat = none := by
    rcases hc with rfl | rfl <;> decide
  obtain ⟨hquote, hescape, hoctal⟩ := hplain
  have hstep : ∀ s, reader.step s c.toNat = none := by
    intro s
    cases s with
    | start => simp only [reader, if_neg hquote]
    | text => exact hunit
    | escape => simp only [reader, hescape, hoctal, Option.map_none]
    | octal value room => simp only [reader, hoctal, ite_self, hunit, Option.map_none]
    | closed => rfl
  obtain ⟨u, -, hfalse⟩ := Machine.exists_of_mem_run (P := fun _ => False)
    (fun s out next hout => by rw [hstep s] at hout; cases hout) hmem h
  exact hfalse

end LineBreaks

/-! ### Texts without backslash and line break -/

theorem reads_translator {c : Char} (hc : c ≠ '\\') :
    translator.Reads .text [c] (utf16 c) .text :=
  .single (by simp only [translator, if_neg hc])

/-- The backslash in front of a quote begins no Unicode escape. -/
theorem reads_translator_quote : translator.Reads .text ['\\', '"'] (units ['\\', '"']) .text := by
  have hbackslash : translator.step .text '\\' = some ([], .backslash) := by decide
  have hquote : translator.step .backslash '"' = some (units ['\\', '"'], .text) := by decide
  exact (Machine.Reads.single hbackslash).append (.single hquote)

theorem reads_translator_escaped {cs : List Char} (h : '\\' ∉ cs) :
    translator.Reads .text (escaped cs) (units (escaped cs)) .text := by
  induction cs with
  | nil => exact .nil _
  | cons c cs ih =>
    rw [List.mem_cons, not_or] at h
    by_cases hquote : c = '"'
    · rw [hquote, escaped_cons_quote]
      exact reads_translator_quote.append (ih h.2)
    · rw [escaped_cons hquote, units_cons]
      exact (reads_translator (Ne.symm h.1)).append (ih h.2)

theorem reads_reader {c : Char} (hc : c ∉ ['"', '\\', '\n', '\r']) :
    reader.Reads .text (utf16 c) (utf16 c) .text := by
  have hkept : ∀ us : List Nat, (∀ d ∈ ['"', '\\', '\n', '\r'], d.toNat ∉ us) →
      reader.Reads .text us us .text := by
    intro us hus
    induction us with
    | nil => exact .nil _
    | cons u us ih =>
      have hne : ∀ d ∈ ['"', '\\', '\n', '\r'], u ≠ d.toNat :=
        fun d hd he => hus d hd (he ▸ List.mem_cons_self)
      simp only [List.forall_mem_cons] at hne
      obtain ⟨hquote, hbackslash, hfeed, hreturn, -⟩ := hne
      have hu : reader.step .text u = some ([u], .text) := by
        simp only [reader, readUnit, hquote, hbackslash, hfeed, hreturn, or_self, if_false]
      exact .cons hu (ih fun d hd hmem => hus d hd (List.mem_cons_of_mem _ hmem))
  refine hkept _ fun d hd hmem => hc ?_
  have hlow : d.toNat < 0xD800 := by
    simp only [List.mem_cons, List.not_mem_nil, or_false] at hd
    rcases hd with rfl | rfl | rfl | rfl <;> decide
  rw [toNat_mem_utf16 hlow] at hmem
  exact hmem ▸ hd

theorem reads_reader_quote : reader.Reads .text (units ['\\', '"']) (units ['"']) .text := by
  have hbackslash : reader.step .text '\\'.toNat = some ([], .escape) := by decide
  have hquote : reader.step .escape '"'.toNat = some (units ['"'], .text) := by decide
  exact (Machine.Reads.single hbackslash).append (.single hquote)

theorem reads_reader_escaped {cs : List Char} (h : ∀ c ∈ cs, c ∉ ['\\', '\n', '\r']) :
    reader.Reads .text (units (escaped cs)) (units cs) .text := by
  induction cs with
  | nil => exact .nil _
  | cons c cs ih =>
    obtain ⟨hc, hcs⟩ := List.forall_mem_cons.1 h
    by_cases hquote : c = '"'
    · rw [hquote, escaped_cons_quote]
      exact reads_reader_quote.append (ih hcs)
    · rw [escaped_cons hquote, units_cons, units_cons]
      exact (reads_reader (by simpa [hquote] using hc)).append (ih hcs)

theorem denoted?_literal {s : String} (h : ∀ c ∈ s.toList, c ∉ ['\\', '\n', '\r']) :
    denoted? (literal s) = some (units s.toList) := by
  have hbackslash : '\\' ∉ s.toList := fun hmem => h _ hmem (by decide)
  have hmark := reads_translator (show '"' ≠ '\\' by decide)
  have htranslated := (hmark.append ((reads_translator_escaped hbackslash).append hmark)).run_eq rfl
  have hopen : reader.step .start '"'.toNat = some ([], .text) := by decide
  have hclose : reader.step .text '"'.toNat = some ([], .closed) := by decide
  have hvalue := ((Machine.Reads.single hopen).append
    ((reads_reader_escaped h).append (.single hclose))).run_eq rfl
  rw [List.nil_append, List.append_nil, List.append_nil] at hvalue
  rw [List.append_nil] at htranslated
  rw [denoted?, toList_literal]
  exact (congrArg (·.bind (reader.run .start)) htranslated).trans hvalue

theorem mem_toList_literal {s : String} {c : Char} (hc : c ∈ s.toList) :
    c ∈ (literal s).toList := by
  rw [toList_literal]
  refine List.mem_cons_of_mem _ (List.mem_append_left _ (List.mem_flatMap.2 ⟨c, hc, ?_⟩))
  split
  · next hquote => rw [hquote]; decide
  · exact List.mem_cons_self

theorem weigh_literal (s : String) :
    weigh (units (literal s).toList) = weigh (units (escaped s.toList)) + 2 := by
  have hquote : weigh (utf16 '"') = 1 := by decide
  rw [toList_literal, units_cons, units_append, weigh_append, weigh_append, hquote]
  have hlast : weigh (units ['"']) = 1 := by decide
  omega

theorem notMem_of_denoted?_literal {s : String} (h : denoted? (literal s) = some (units s.toList)) :
    ∀ c ∈ s.toList, c ∉ ['\\', '\n', '\r'] := by
  obtain ⟨us, htranslated, hvalue⟩ := Option.bind_eq_some_iff.1 h
  -- The value is as long as the text only if no backslash was taken for an escape.
  have hcount : s.toList.count '\\' = 0 := by
    have hread := weigh_translator htranslated
    have hgiven := length_reader hvalue
    have hescaped := weigh_escaped s.toList
    rw [weigh_literal, Translation.owed] at hread
    omega
  intro c hc hmem
  rcases List.mem_cons.1 hmem with rfl | hbreak
  · exact List.count_eq_zero.1 hcount hc
  · have hbreak : c = '\n' ∨ c = '\r' := by simpa using hbreak
    have hkept := toNat_mem_of_translator hbreak (mem_toList_literal hc) htranslated
    exact toNat_notMem_of_reader hbreak hvalue hkept

theorem denoted?_literal_iff (s : String) :
    denoted? (literal s) = some (units s.toList) ↔ ∀ c ∈ s.toList, c ∉ ['\\', '\n', '\r'] :=
  ⟨notMem_of_denoted?_literal, denoted?_literal⟩

/-- A backslash of the text may also be taken for an escape. -/
example : denoted? (literal "a\\nb") = some (units "a\nb".toList) := by decide

/-- The literal of a text that ends in a backslash stays open. -/
theorem denoted?_literal_backslash : denoted? (literal "a\\") = none := by
  decide

end Java

end SpringScaffold
