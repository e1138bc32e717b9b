import SpringScaffold.Proofs.MapRuns
import SpringScaffold.Stage

/-! Renaming the identifiers of a type signature. The loop that does it writes each identifier when
it is over, so what it has written, the identifier that it is reading and the text that is still to
come stand for the substituted text all the time (`Renaming.toList_out_foldl_step`): it replaces the
runs of the signature and nothing else (`rename_eq_substitute`). Substituting and splitting the
container off do not disturb each other (`split?_substitute`). The marks of a signature and white
space are no part of an identifier, and the suffix of a class name neither makes nor breaks the word
that a container begins with. -/

namespace SpringScaffold.Signature

open Text

variable {f : String → String}

/-- The signature with each of its identifiers replaced, qualified names taken as one. -/
def substitute (f : String → String) (s : String) : String :=
  String.join ((cut isReference s.toList).map fun
    | .run cs => f (String.ofList cs)
    | .other c => String.singleton c)

/-- A replacement as a function of the characters of an identifier. -/
def onChars (f : String → String) (w : List Char) : List Char := (f (String.ofList w)).toList

theorem toList_substitute (f : String → String) (s : String) :
    (substitute f s).toList = mapRuns isReference (onChars f) s.toList := by
  rw [substitute, String.toList_join, mapRuns, glue, List.map_map, List.flatMap_map,
    ← List.flatMap_def]
  congr 1
  funext p
  cases p <;> simp [Piece.mapRun, Piece.toList, onChars]

namespace Renaming

variable {renames : Dictionary String}

/-- The identifier that is being read is one so far. -/
def Reads (r : Renaming) : Prop := ∀ c ∈ r.ident.toList, isReference c = true

/-- What the identifier that has been read stands for in the result. -/
theorem toList_out_flush {r : Renaming} (h : r.Reads) :
    (r.flush renames).out.toList =
      r.out.toList ++ mapRuns isReference (onChars (newName renames)) r.ident.toList := by
  by_cases hnone : r.ident = ""
  · rw [flush, if_pos hnone, hnone]
    simp
  · have hrun : IsRun isReference r.ident.toList := ⟨by simpa using hnone, h⟩
    have hcut : cut isReference r.ident.toList = [.run r.ident.toList] :=
      cut_eq_iff.2 ⟨.cons_run hrun .nil (by simp), by simp [Piece.toList]⟩
    rw [flush, if_neg hnone, String.toList_append, mapRuns, hcut]
    simp [Piece.mapRun, Piece.toList, onChars]

theorem ident_flush (r : Renaming) : (r.flush renames).ident = "" := by
  unfold flush
  split
  · next hnone => exact hnone
  · rfl

theorem step_reference {c : Char} (hc : isReference c = true) (r : Renaming) :
    r.step renames c = ⟨r.out, r.ident.push c⟩ := by
  rw [step, if_pos hc]

theorem step_other {c : Char} (hc : isReference c = false) (r : Renaming) :
    r.step renames c = ⟨(r.flush renames).out.push c, ""⟩ := by
  rw [step, if_neg (by simp [hc]), ident_flush]

/-- By induction on the text that is still to come. -/
theorem toList_out_foldl_step (cs : List Char) {r : Renaming} (h : r.Reads) :
    ((cs.foldl (step renames) r).flush renames).out.toList =
      r.out.toList ++ mapRuns isReference (onChars (newName renames)) (r.ident.toList ++ cs) := by
  induction cs generalizing r with
  | nil =>
    rw [List.append_nil]
    exact toList_out_flush h
  | cons c cs ih =>
    rw [List.foldl_cons]
    cases hc : isReference c with
    | true =>
      have hnext : Reads ⟨r.out, r.ident.push c⟩ := by
        intro d hd
        rw [String.toList_push, List.mem_append, List.mem_singleton] at hd
        rcases hd with hd | rfl
        · exact h d hd
        · exact hc
      rw [step_reference hc, ih hnext, String.toList_push, List.append_assoc,
        List.singleton_append]
    | false =>
      have hnext : Reads ⟨(r.flush renames).out.push c, ""⟩ := by
        intro d hd
        simp at hd
      rw [step_other hc, ih hnext, String.toList_push, toList_out_flush h,
        mapRuns_append_other _ hc]
      simp

end Renaming

/-- The loop replaces whole identifiers, each of them once. -/
theorem rename_eq_substitute (renames : Dictionary String) :
    rename renames = substitute (newName renames) := by
  funext s
  have hstart : Renaming.Reads .start := by
    intro c hc
    simp [Renaming.start] at hc
  rw [← String.toList_inj, rename, Renaming.toList_out_foldl_step s.toList hstart,
    toList_substitute]
  simp [Renaming.start]

theorem substitute_id (s : String) : substitute id s = s := by
  have hid : onChars id = id := by
    funext w
    simp [onChars]
  rw [← String.toList_inj, toList_substitute, hid, mapRuns_id]

/-- What does to identifiers at most that it puts the suffix of a class name behind them. -/
def Suffixing (f : String → String) : Prop := ∀ id, f id = id ∨ f id = id ++ Model.dtoSuffix

theorem Suffixing.onChars (hf : Suffixing f) (w : List Char) :
    onChars f w = w ∨ onChars f w = w ++ Model.dtoSuffix.toList := by
  rcases hf (String.ofList w) with h | h
  · exact .inl (by rw [Signature.onChars, h, String.toList_ofList])
  · exact .inr (by rw [Signature.onChars, h, String.toList_append, String.toList_ofList])

theorem Suffixing.isRun (hf : Suffixing f) {keep : Char → Bool}
    (hkeep : Model.dtoSuffix.toList.all keep = true) {w : List Char} (hw : IsRun keep w) :
    IsRun keep (Signature.onChars f w) := by
  rcases hf.onChars w with h | h
  · rwa [h]
  · rw [h]
    exact hw.append (List.all_eq_true.1 hkeep)

theorem Suffixing.keepsRuns (hf : Suffixing f) : KeepsRuns isReference (Signature.onChars f) :=
  fun _ hw => hf.isRun (by decide) hw

theorem substitute_substitute (hf : Suffixing f) (g : String → String) (s : String) :
    substitute g (substitute f s) = substitute (g ∘ f) s := by
  rw [← String.toList_inj, toList_substitute, toList_substitute, mapRuns_mapRuns hf.keepsRuns,
    toList_substitute]
  congr 1
  funext w
  simp [Signature.onChars]

theorem dtoSuffix_toList : Model.dtoSuffix.toList = ['D', 't', 'o'] := rfl

/-- The suffix begins with a capital that no container begins with, so a word that begins with a
container's name after the renaming did so before. -/
theorem Suffixing.prefix_iff (hf : Suffixing f) {o : List Char} (ho : 'D' ∉ o) (w : List Char) :
    o <+: Signature.onChars f w ↔ o <+: w := by
  rcases hf.onChars w with h | h
  · rw [h]
  · rw [h]
    constructor
    · intro hp
      rcases List.prefix_or_prefix_of_prefix hp (List.prefix_append w _) with hw | ⟨d, rfl⟩
      · exact hw
      · rw [List.prefix_append_right_inj, dtoSuffix_toList] at hp
        rcases List.prefix_cons_iff.1 hp with rfl | ⟨t, rfl, -⟩
        · simp
        · simp at ho
    · intro hp
      exact hp.trans (List.prefix_append _ _)

/-- The code points of white space. -/
def blanks : List Nat :=
  List.range' 9 5 ++ [0x20, 0x85, 0xA0, 0x1680] ++ List.range' 0x2000 11 ++
    [0x2028, 0x2029, 0x202F, 0x205F, 0x3000]

theorem toNat_mem_blanks {c : Char} (h : isBlank c = true) : c.toNat ∈ blanks := by
  simpa [isBlank, blanks, or_assoc, Nat.lt_succ_iff] using h

theorem isReference_eq_false_of_isBlank {c : Char} (h : isBlank c = true) :
    isReference c = false := by
  have hall : ∀ n ∈ blanks, isReference (Char.ofNat n) = false := by decide +kernel
  have hc := hall c.toNat (toNat_mem_blanks h)
  rwa [Char.ofNat_toNat] at hc

theorem openings_isReference (k : Container) :
    ∀ o ∈ k.openings, (∀ c ∈ o.toList, isReference c = true) ∧ 'D' ∉ o.toList := by
  have hall : ∀ o ∈ k.openings, o.toList.all isReference = true ∧ 'D' ∉ o.toList := by
    cases k <;> decide
  intro o ho
  exact ⟨List.all_eq_true.1 (hall o ho).1, (hall o ho).2⟩

theorem opens_mapRuns (hf : Suffixing f) (k : Container) (cs : List Char) :
    k.opens (mapRuns isReference (Signature.onChars f) cs) = k.opens cs := by
  have hopening : ∀ o ∈ k.openings,
      o.toList <+: mapRuns isReference (Signature.onChars f) cs ↔ o.toList <+: cs := by
    intro o ho
    obtain ⟨hkept, hD⟩ := openings_isReference k o ho
    rw [prefix_iff_prefix_takeWhile hkept, takeWhile_mapRuns hf.keepsRuns,
      prefix_iff_prefix_takeWhile hkept cs]
    split
    · next hnil => rw [hnil]
    · exact hf.prefix_iff hD _
  rw [Bool.eq_iff_iff, Container.opens, Container.opens, List.any_eq_true, List.any_eq_true]
  simp only [List.isPrefixOf_iff_prefix]
  constructor
  · rintro ⟨o, ho, hp⟩
    exact ⟨o, ho, (hopening o ho).1 hp⟩
  · rintro ⟨o, ho, hp⟩
    exact ⟨o, ho, (hopening o ho).2 hp⟩

theorem inner?_mapRuns {g : List Char → List Char} (hg : KeepsRuns isReference g)
    (cs : List Char) :
    inner? (mapRuns isReference g cs) = (inner? cs).map (mapRuns isReference g) := by
  simp only [inner?, splitAtFirst_mapRuns hg (show isReference '<' = false by decide)]
  cases splitAtFirst '<' cs with
  | none => rfl
  | some parts =>
    simp only [Option.map_some, Prod.map, Option.bind_eq_bind, Option.bind_some,
      splitAtLast_mapRuns hg (show isReference '>' = false by decide)]
    cases splitAtLast '>' parts.2 <;> rfl

theorem value?_mapRuns {g : List Char → List Char} (hg : KeepsRuns isReference g)
    (cs : List Char) :
    value? (mapRuns isReference g cs) = (value? cs).map (mapRuns isReference g) := by
  simp only [value?, splitAtFirst_mapRuns hg (show isReference ',' = false by decide)]
  cases splitAtFirst ',' cs <;> rfl

theorem splitChars?_mapRuns (hf : Suffixing f) (cs : List Char) :
    splitChars? (mapRuns isReference (Signature.onChars f) cs) =
      (splitChars? cs).map fun (base, k) =>
        (mapRuns isReference (Signature.onChars f) base, k) := by
  have hg := hf.keepsRuns
  have htrim : ∀ cs, trim (mapRuns isReference (Signature.onChars f) cs) =
      mapRuns isReference (Signature.onChars f) (trim cs) :=
    trim_mapRuns (fun c hc => isReference_eq_false_of_isBlank hc) hg
  simp only [splitChars?, opens_mapRuns hf, inner?_mapRuns hg]
  split
  · simp [Option.map_map, Function.comp_def, htrim]
  · split
    · cases inner? cs with
      | none => rfl
      | some inside => simp [value?_mapRuns hg, Option.map_map, Function.comp_def, htrim]
    · split
      · simp [Option.map_map, Function.comp_def, htrim]
      · rfl

/-- Splitting a substituted signature is substituting in the base type of the split one. -/
theorem split?_substitute (hf : Suffixing f) (s : String) :
    split? (some (substitute f s)) =
      (split? (some s)).map fun t => ⟨substitute f t.base, t.container⟩ := by
  simp only [split?, toList_substitute, splitChars?_mapRuns hf, Option.map_map]
  congr 1
  funext ⟨base, k⟩
  simp [← String.toList_inj, toList_substitute]

theorem container_ne_none_of_split? {s : String} {t : SplitType} (h : split? (some s) = some t) :
    t.container ≠ .none := by
  obtain ⟨⟨base, k⟩, hsplit, rfl⟩ := Option.map_eq_some_iff.1 h
  rintro (rfl : k = .none)
  unfold splitChars? at hsplit
  split_ifs at hsplit
  all_goals
    obtain ⟨inside, -, he⟩ := Option.map_eq_some_iff.1 hsplit
    simp at he

theorem split?_void : split? (some void) = none := by decide

theorem substitute_void (f : String → String) : substitute f void = f void := by
  have hcut : cut isReference void.toList = [.run void.toList] := by decide
  rw [← String.toList_inj, toList_substitute, mapRuns, hcut]
  simp [Piece.mapRun, Piece.toList, Signature.onChars]

end SpringScaffold.Signature
