import SpringScaffold.Java.ModelClass
import SpringScaffold.Java.Service
import SpringScaffold.Proofs.Runs

/-! Texts of a document on one line of a comment (`Java.oneLine_printed`). Collapsing keeps the
words of a text and puts single spaces around them, so collapsing such a text again changes nothing.
A line made of such a text and spaces is a line of the rendered file, since the file is parted at
line feeds alone. -/

namespace SpringScaffold

namespace Text

variable {cs : List Char} {inBlank : Bool}

/-! ### Collapsing white space -/

/-- The only white space is spaces, and no two of them are neighbours. -/
structure IsSpaced (cs : List Char) : Prop where
  spaces : ∀ c ∈ cs, isBlank c = true → c = ' '
  single : cs.IsChain fun c d => c = ' ' → d ≠ ' '

theorem collapseFrom_of_isBlank {c : Char} (hc : isBlank c = true) (inBlank : Bool)
    (rest : List Char) : collapseFrom inBlank (c :: rest) =
      if inBlank then collapseFrom true rest else ' ' :: collapseFrom true rest := by
  rw [collapseFrom, if_pos hc]

theorem collapseFrom_of_not_isBlank {c : Char} (hc : isBlank c = false) (inBlank : Bool)
    (rest : List Char) : collapseFrom inBlank (c :: rest) = c :: collapseFrom false rest := by
  rw [collapseFrom, if_neg (Bool.eq_false_iff.1 hc)]

theorem ne_space_of_not_isBlank {c : Char} (hc : isBlank c = false) : c ≠ ' ' := by
  rintro rfl
  exact absurd hc (by decide)

/-- Behind white space no further space is put. -/
theorem head?_collapseFrom_true (cs : List Char) :
    ∀ c ∈ (collapseFrom true cs).head?, c ≠ ' ' := by
  induction cs with
  | nil => simp [collapseFrom]
  | cons c rest ih =>
    by_cases hc : isBlank c = true
    · rw [collapseFrom_of_isBlank hc, if_pos rfl]
      exact ih
    · rw [Bool.not_eq_true] at hc
      rw [collapseFrom_of_not_isBlank hc]
      rintro d hd
      obtain rfl := Option.some.inj hd
      exact ne_space_of_not_isBlank hc

theorem isSpaced_collapseFrom (inBlank : Bool) (cs : List Char) :
    IsSpaced (collapseFrom inBlank cs) := by
  have hspace : ∀ {rest}, IsSpaced (collapseFrom true rest) →
      IsSpaced (' ' :: collapseFrom true rest) := by
    intro rest h
    refine ⟨List.forall_mem_cons.2 ⟨fun _ => rfl, h.spaces⟩, ?_⟩
    exact List.isChain_cons.2 ⟨fun d hd _ => head?_collapseFrom_true rest d hd, h.single⟩
  induction cs generalizing inBlank with
  | nil => exact ⟨by simp [collapseFrom], .nil⟩
  | cons c rest ih =>
    by_cases hc : isBlank c = true
    · rw [collapseFrom_of_isBlank hc]
      cases inBlank with
      | true => exact ih true
      | false => exact hspace (ih true)
    · rw [Bool.not_eq_true] at hc
      rw [collapseFrom_of_not_isBlank hc]
      refine ⟨List.forall_mem_cons.2 ⟨fun h => ?_, (ih false).spaces⟩, ?_⟩
      · rw [hc] at h
        cases h
      · exact List.isChain_cons.2
          ⟨fun _ _ h => absurd h (ne_space_of_not_isBlank hc), (ih false).single⟩

/-- A text of single spaces stays as it is, unless a space stands behind white space. -/
theorem IsSpaced.collapseFrom_eq (h : IsSpaced cs)
    (hhead : inBlank = true → ∀ c ∈ cs.head?, c ≠ ' ') : collapseFrom inBlank cs = cs := by
  induction cs generalizing inBlank with
  | nil => rfl
  | cons c rest ih =>
    obtain ⟨hspace, hspaces⟩ := List.forall_mem_cons.1 h.spaces
    obtain ⟨hnext, hsingle⟩ := List.isChain_cons.1 h.single
    by_cases hc : isBlank c = true
    · obtain rfl := hspace hc
      have hout : inBlank = false := by
        cases inBlank with
        | false => rfl
        | true => exact absurd rfl (hhead rfl ' ' rfl)
      rw [collapseFrom_of_isBlank hc, hout, if_neg Bool.false_ne_true,
        ih ⟨hspaces, hsingle⟩ fun _ d hd => hnext d hd rfl]
    · rw [Bool.not_eq_true] at hc
      rw [collapseFrom_of_not_isBlank hc, ih ⟨hspaces, hsingle⟩ fun h => by cases h]

def isSolid (c : Char) : Bool := !isBlank c

theorem collapseFrom_append {w : List Char} (hw : IsRun isSolid w) (inBlank : Bool)
    (rest : List Char) : collapseFrom inBlank (w ++ rest) = w ++ collapseFrom false rest := by
  have hsolid : ∀ v : List Char, (∀ c ∈ v, isSolid c = true) →
      collapseFrom false (v ++ rest) = v ++ collapseFrom false rest := by
    intro v hv
    induction v with
    | nil => rfl
    | cons c v ih =>
      obtain ⟨hc, hv⟩ := List.forall_mem_cons.1 hv
      rw [List.cons_append, collapseFrom_of_not_isBlank (by simpa [isSolid] using hc), ih hv,
        List.cons_append]
  obtain ⟨c, v, rfl⟩ := List.exists_cons_of_ne_nil hw.1
  obtain ⟨hc, hv⟩ := List.forall_mem_cons.1 hw.2
  rw [List.cons_append, collapseFrom_of_not_isBlank (by simpa [isSolid] using hc), hsolid v hv,
    List.cons_append]

/-- White space becomes less between words, but some is left between any two. -/
theorem HasRuns.collapseFrom {ws : List (List Char)} (h : HasRuns isSolid ws cs)
    (inBlank : Bool) : HasRuns isSolid ws (collapseFrom inBlank cs) := by
  have hspace : isSolid ' ' = false := by decide
  induction h generalizing inBlank with
  | nil => exact .nil
  | other hc _ ih =>
    rw [collapseFrom_of_isBlank (by simpa [isSolid] using hc)]
    cases inBlank with
    | true => exact ih true
    | false => exact .other hspace (ih true)
  | @run w ws rest hw hstop _ ih =>
    rw [collapseFrom_append hw]
    refine .run hw ?_ (ih false)
    cases rest with
    | nil => simp [Text.collapseFrom]
    | cons d rest =>
      have hd : isBlank d = true := by simpa [isSolid] using hstop d rfl
      rw [collapseFrom_of_isBlank hd, if_neg Bool.false_ne_true]
      rintro c hc
      obtain rfl := Option.some.inj hc
      exact hspace

theorem runs_collapse (cs : List Char) : runs isSolid (collapse cs) = runs isSolid cs :=
  ((hasRuns_iff.2 rfl).collapseFrom false).runs_eq

/-! ### Lines of a text -/

/-- What may stand inside a line: all but the white space that is no space. -/
def staysInLine (c : Char) : Bool := c == ' ' || isSolid c

theorem IsSpaced.staysInLine (h : IsSpaced cs) : ∀ c ∈ cs, staysInLine c = true := by
  intro c hc
  by_cases hblank : isBlank c = true
  · simp [Text.staysInLine, h.spaces c hc hblank]
  · simp [Text.staysInLine, isSolid, hblank]

end Text

open Text

namespace Java

/-! ### One line of a text -/

/-- The line holds the words of the text with single spaces around them, and neither filter finds
anything to change in it. -/
structure IsOneLineOf (text line : String) : Prop where
  spaced : IsSpaced line.toList
  kept : line.toList.filter isSolid = text.toList.filter isSolid
  words : runs isSolid line.toList = runs isSolid (removeLineBreaks text).toList
  unbroken : removeLineBreaks line = line
  collapsed : collapseBlanks line = line

theorem removeLineBreaks_of_isSpaced {s : String} (h : IsSpaced s.toList) :
    removeLineBreaks s = s := by
  have hkeep : ∀ c ∈ s.toList, (c != '\r' && c != '\n') = true := by
    intro c hc
    have hstays := h.staysInLine c hc
    by_contra hbreak
    have hcases : c = '\r' ∨ c = '\n' := by
      by_contra hne
      exact hbreak (by simpa [not_or] using hne)
    rcases hcases with rfl | rfl
    · revert hstays
      decide
    · revert hstays
      decide
  rw [removeLineBreaks, List.filter_eq_self.2 hkeep, String.ofList_toList]

/-- Line breaks are white space, so removing them takes nothing else away. -/
theorem filter_removeLineBreaks (s : String) :
    (removeLineBreaks s).toList.filter isSolid = s.toList.filter isSolid := by
  rw [removeLineBreaks, String.toList_ofList, List.filter_filter]
  refine List.filter_congr fun c _ => ?_
  by_cases hr : c = '\r'
  · subst hr
    decide
  · by_cases hn : c = '\n'
    · subst hn
      decide
    · simp [hr, hn]

theorem toList_oneLine (text : String) :
    (oneLine text).toList = collapse (removeLineBreaks text).toList := by
  rw [oneLine, collapseBlanks, String.toList_ofList]

theorem isOneLineOf_oneLine (text : String) : IsOneLineOf text (oneLine text) := by
  have hline := toList_oneLine text
  have hspaced : IsSpaced (oneLine text).toList := by
    rw [hline]
    exact isSpaced_collapseFrom false _
  have hwords :
      runs isSolid (oneLine text).toList = runs isSolid (removeLineBreaks text).toList := by
    rw [hline, runs_collapse]
  refine ⟨hspaced, ?_, hwords, removeLineBreaks_of_isSpaced hspaced, ?_⟩
  · rw [← flatten_runs, hwords, flatten_runs, filter_removeLineBreaks]
  · rw [collapseBlanks, collapse, hspaced.collapseFrom_eq (fun h => absurd h Bool.false_ne_true),
      String.ofList_toList]

/-! ### Lines of a file -/

/-- The line is a whole line of the file. -/
def IsLineOf (line file : String) : Prop := StandsIn staysInLine line.toList file.toList

theorem isLineOf_joinLines {line : String} {ls : List String} (hmem : line ∈ ls)
    (hline : IsRun staysInLine line.toList) : IsLineOf line (joinLines ls) := by
  have hbreak : staysInLine '\n' = false := by decide
  have hfile : (joinLines ls).toList = ['\n'].intercalate (ls.map String.toList) := by
    simp [joinLines]
  rw [IsLineOf, ← mem_runs_iff, hfile, runs_intercalate_eq_flatMap hbreak, List.mem_flatMap]
  refine ⟨line.toList, List.mem_map_of_mem hmem, ?_⟩
  rw [runs_of_isRun hline]
  exact List.mem_singleton_self _

/-- A text behind the sign of a comment line. -/
def commentLine (indent text : String) : String := indent ++ " * " ++ text

theorem commentLine_mem_comment {indent text : String} {ls : List String} (h : text ∈ ls) :
    commentLine indent text ∈ comment indent ls := by
  simp only [comment, List.mem_append]
  exact .inl (.inr (List.mem_map_of_mem h))

theorem commentLine_mem_commentUnlessEmpty {indent text : String} {ls : List String}
    (h : text ∈ ls) : commentLine indent text ∈ commentUnlessEmpty indent ls := by
  have hne : ls.isEmpty = false := by
    cases ls with
    | nil => cases h
    | cons => rfl
  rw [commentUnlessEmpty, hne, Bool.not_false, onlyIf, if_pos rfl]
  exact commentLine_mem_comment h

theorem oneLine_mem_map {text : String} {d : Option String} (h : text ∈ d) :
    oneLine text ∈ (d.map oneLine).toList := by
  rw [Option.mem_def] at h
  simp [h]

theorem isRun_commentLine {indent : String} (hindent : indent.toList.all staysInLine = true)
    (text : String) : IsRun staysInLine (commentLine indent (oneLine text)).toList := by
  have hsign : ∀ c ∈ " * ".toList, staysInLine c = true := List.all_eq_true.1 (by decide)
  have htext := (isOneLineOf_oneLine text).spaced.staysInLine
  have hparts : (commentLine indent (oneLine text)).toList =
      indent.toList ++ " * ".toList ++ (oneLine text).toList := by
    rw [commentLine, String.toList_append, String.toList_append]
  rw [hparts]
  have hstart := List.forall_mem_append.2 ⟨List.all_eq_true.1 hindent, hsign⟩
  exact ⟨by simp, List.forall_mem_append.2 ⟨hstart, htext⟩⟩

/-- The text stands on one line of a comment of the file, behind the sign of a comment line. -/
def IsPrintedOn (file indent text : String) : Prop :=
  IsLineOf (commentLine indent (oneLine text)) file

theorem isPrintedOn_joinLines {indent text : String} {ls : List String}
    (hindent : indent.toList.all staysInLine = true)
    (h : commentLine indent (oneLine text) ∈ ls) : IsPrintedOn (joinLines ls) indent text :=
  isLineOf_joinLines h (isRun_commentLine hindent text)

section Files

variable (s : Spec) (c : Config)

theorem isPrintedOn_controller {g : Group} {text : String} (h : text ∈ given g.description) :
    IsPrintedOn (s.controller c g).render "" text := by
  have hcomment : commentLine "" (oneLine text) ∈
      commentUnlessEmpty "" ((given (s.controller c g).description).map oneLine).toList :=
    commentLine_mem_commentUnlessEmpty (oneLine_mem_map h)
  refine isPrintedOn_joinLines (by decide) ?_
  simp only [Controller.lines, List.mem_append, hcomment, true_or, or_true]

theorem isPrintedOn_service {g : Group} {text : String} (h : text ∈ given g.description) :
    IsPrintedOn (s.service c g).render "" text := by
  have hcomment : commentLine "" (oneLine text) ∈
      comment "" (["Business logic behind " ++ (s.service c g).name ++ "Controller."]
        ++ ((given (s.service c g).description).map oneLine).toList) :=
    commentLine_mem_comment (List.mem_append_right _ (oneLine_mem_map h))
  refine isPrintedOn_joinLines (by decide) ?_
  simp only [Service.lines, List.mem_append, hcomment, true_or, or_true]

theorem isPrintedOn_handler {g : Group} {op : Operation} (hop : op ∈ s.operationsOf g)
    {text : String} (h : text ∈ given op.summary) :
    IsPrintedOn (s.controller c g).render "    " text := by
  have hhandler : Handler.of c.options.beanValidation op ∈ (s.controller c g).handlers :=
    List.mem_map_of_mem hop
  have hcomment : commentLine "    " (oneLine text) ∈
      (Handler.of c.options.beanValidation op).lines := by
    have hmem : commentLine "    " (oneLine text) ∈
        commentUnlessEmpty "    " (Handler.of c.options.beanValidation op).commentLines :=
      commentLine_mem_commentUnlessEmpty (List.mem_append_left _ (oneLine_mem_map h))
    simp only [Handler.lines, List.mem_append, hmem, true_or, or_true]
  have hlines : commentLine "    " (oneLine text) ∈
      (s.controller c g).handlers.flatMap Handler.lines :=
    List.mem_flatMap.2 ⟨_, hhandler, hcomment⟩
  refine isPrintedOn_joinLines (by decide) ?_
  simp only [Controller.lines, List.mem_append, hlines, true_or, or_true]

theorem isPrintedOn_model {m : Model} (hm : m.isEnum = false) {p : Property}
    (hp : p ∈ m.properties) {text : String} (h : text ∈ given p.description) :
    IsPrintedOn (m.render c) "    " text := by
  have hfield : Field.of c.options.beanValidation p ∈ (m.toClass c).fields :=
    List.mem_map_of_mem hp
  have hcomment : commentLine "    " (oneLine text) ∈
      (Field.of c.options.beanValidation p).lines := by
    have hmem : commentLine "    " (oneLine text) ∈
        commentUnlessEmpty "    " (Field.of c.options.beanValidation p).commentLines :=
      commentLine_mem_commentUnlessEmpty (List.mem_append_left _ (oneLine_mem_map h))
    simp only [Field.lines, List.mem_append, hmem, true_or, or_true]
  have hlines : commentLine "    " (oneLine text) ∈ (m.toClass c).fields.flatMap Field.lines :=
    List.mem_flatMap.2 ⟨_, hfield, hcomment⟩
  rw [Model.render, hm, if_neg Bool.false_ne_true]
  refine isPrintedOn_joinLines (by decide) ?_
  simp only [ModelClass.lines, List.mem_append, hlines, true_or, or_true]

end Files

/-- A text that is printed through the filter is on one line of its file, whatever white space it
holds: descriptions of groups and of properties, and summaries of operations. -/
theorem oneLine_printed :
    (∀ text, IsOneLineOf text (oneLine text)) ∧
    (∀ (s : Spec) (c : Config) (g : Group), ∀ text ∈ given g.description,
      IsPrintedOn (s.controller c g).render "" text ∧ IsPrintedOn (s.service c g).render "" text) ∧
    (∀ (s : Spec) (c : Config) (g : Group), ∀ op ∈ s.operationsOf g, ∀ text ∈ given op.summary,
      IsPrintedOn (s.controller c g).render "    " text) ∧
    ∀ (c : Config) (m : Model), m.isEnum = false → ∀ p ∈ m.properties,
      ∀ text ∈ given p.description, IsPrintedOn (m.render c) "    " text := by
  refine ⟨isOneLineOf_oneLine, ?_, ?_, ?_⟩
  · intro s c g text h
    exact ⟨isPrintedOn_controller s c h, isPrintedOn_service s c h⟩
  · intro s c g op hop text h
    exact isPrintedOn_handler s c hop h
  · intro c m hm p hp text h
    exact isPrintedOn_model c hm hp h

theorem oneLine_printed_breaks :
    let text := "Orders\r\n and\u2028\ttheir lines"
    let op : Operation := { (default : Operation) with summary := some text }
    let s : Spec := { (default : Spec) with operations := [op] }
    let g : Group := { name := ⟨"shop"⟩, operations := [0], description := some text }
    let p : Property := { (default : Property) with description := some text }
    let m : Model := { (default : Model) with properties := [p] }
    (text ∈ given g.description ∧ (op ∈ s.operationsOf g ∧ text ∈ given op.summary) ∧
      m.isEnum = false ∧ p ∈ m.properties ∧ text ∈ given p.description) ∧
    (oneLine text = "Orders and their lines" ∧ IsOneLineOf text (oneLine text)) ∧
    IsPrintedOn (s.controller Config.default g).render "" text ∧
    IsPrintedOn (s.service Config.default g).render "" text ∧
    IsPrintedOn (s.controller Config.default g).render "    " text ∧
    IsPrintedOn (m.render Config.default) "    " text := by
  intro text op s g p m
  have hgiven : text ∈ given (some text) := rfl
  have hop : op ∈ s.operationsOf g := List.mem_singleton_self op
  have hp : p ∈ m.properties := List.mem_singleton_self p
  obtain ⟨hline, hgroup, hsummary, hproperty⟩ := oneLine_printed
  obtain ⟨hcontroller, hservice⟩ := hgroup s Config.default g text hgiven
  exact ⟨⟨hgiven, ⟨hop, hgiven⟩, rfl, hp, hgiven⟩, ⟨by decide, hline text⟩, hcontroller, hservice,
    hsummary s Config.default g op hop text hgiven,
    hproperty Config.default m rfl p hp text hgiven⟩

end Java

end SpringScaffold
