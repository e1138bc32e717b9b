import SpringScaffold.Proofs.Extensions
import SpringScaffold.Proofs.Imports

/-! The records of a description, written and read back. Every record is read back by one lemma
(`Json.fit_record_append`), which its members have to meet one by one, and its parts are taken out
of what was read as they were put in. -/

namespace SpringScaffold

/-! ### Without repetition -/

namespace Dictionary

variable {α : Type}

theorem put_of_forall_ne {key : String} (value : α) {l : List (String × α)}
    (h : ∀ e ∈ l, e.1 ≠ key) : put key value l = l ++ [(key, value)] := by
  induction l with
  | nil => rfl
  | cons e rest ih =>
    obtain ⟨he, hrest⟩ := List.forall_mem_cons.1 h
    rw [put, if_neg he, ih hrest, List.cons_append]

theorem ofList_entries (d : Dictionary α) : ofList d.entries = d := by
  rw [Dictionary.mk.injEq, entries_ofList]
  exact foldl_eq_append (fun _ e hlast => put_of_forall_ne e.2 hlast) (List.pairwise_map.1 d.nodup)

end Dictionary

theorem Json.firstOfEach_of_nodup {texts : List String} (h : texts.Nodup) :
    firstOfEach texts = texts :=
  foldl_eq_append (fun _ s hnew => if_neg (by simpa using fun hmem => hnew s hmem rfl)) h

/-! ### Reading parts back -/

theorem lookup_of_mem {α : Type} {l : List (String × α)} (h : (l.map (·.1)).Nodup)
    {e : String × α} (he : e ∈ l) : l.lookup e.1 = some e.2 := by
  obtain ⟨before, after, rfl⟩ := List.append_of_mem he
  rw [List.map_append, List.nodup_append] at h
  refine List.lookup_eq_some_iff.2 ⟨before, after, rfl, fun p hp => ?_⟩
  exact bne_iff_ne.2 (Ne.symm (h.2.2 _ (List.mem_map_of_mem hp) e.1 (by simp)))

namespace Shape

variable {declared : List (String × Shape × Option Value)}

theorem lookup_eq (declared : List (String × Shape × Option Value)) (name : String) :
    lookup declared name = (declared.lookup name).map (·.1) := by
  induction declared with
  | nil => rfl
  | cons d rest ih =>
    rw [lookup] at ih ⊢
    rw [List.find?_cons, List.lookup_cons]
    by_cases h : d.1 = name
    · simp [h]
    · simpa [h, beq_false_of_ne (Ne.symm h)] using ih

theorem fill_of_lookup {read ms : List (String × Value)}
    (hnames : ms.map (·.1) = declared.map (·.1))
    (hread : ∀ m ∈ ms, read.lookup m.1 = some m.2) : fill read declared = .ok ms := by
  induction declared generalizing ms with
  | nil =>
    obtain rfl := List.map_eq_nil_iff.1 hnames
    rfl
  | cons d rest ih =>
    obtain ⟨name, shape, absent⟩ := d
    obtain ⟨m, ms, rfl, rfl, hrest⟩ := List.map_eq_cons_iff.1 hnames
    obtain ⟨hm, hms⟩ := List.forall_mem_cons.1 hread
    rw [fill, hm, Option.some_or, ih hrest hms]
    rfl

end Shape

namespace Json

section Parts

variable {depth : Nat} {declared : List (String × Shape × Option Value)}

theorem fitMembers_ofMembers {read ms : List (String × Value)}
    (hms : ∀ m ∈ ms, ∃ shape, Shape.lookup declared m.1 = some shape ∧
      fit depth shape (.ofValue m.2) = .ok m.2)
    (hnames : ((read ++ ms).map (·.1)).Nodup) :
    fitMembers depth declared read (Tree.ofMembers ms) = .ok (read ++ ms) := by
  induction ms generalizing read with
  | nil => rw [Tree.ofMembers, fitMembers, List.append_nil]
  | cons m rest ih =>
    obtain ⟨name, v⟩ := m
    obtain ⟨⟨shape, hshape, hv⟩, hrest⟩ := List.forall_mem_cons.1 hms
    have hnew : read.lookup name = none := by
      rw [List.lookup_eq_none_iff]
      rw [List.map_append, List.nodup_append] at hnames
      intro e he
      simpa using Ne.symm (hnames.2.2 _ (List.mem_map_of_mem he) name (by simp))
    rw [Tree.ofMembers, Tree.ofMember, fitMembers_cons_eq_ok]
    refine ⟨read ++ [(name, v)], (fitMember_declared hshape).2 ⟨hnew, v, hv, rfl⟩, ?_⟩
    rw [ih hrest (by simpa using hnames), List.append_assoc, List.singleton_append]

theorem fitMembers_sound {read ms : List (String × Value)}
    (hms : ∀ m ∈ ms, Shape.lookup declared m.1 = none ∧ (Tree.ofValue m.2).sound = true) :
    fitMembers depth declared read (Tree.ofMembers ms) = .ok read := by
  induction ms with
  | nil => rw [Tree.ofMembers, fitMembers]
  | cons m rest ih =>
    obtain ⟨name, v⟩ := m
    obtain ⟨⟨hnone, hsound⟩, hrest⟩ := List.forall_mem_cons.1 hms
    rw [Tree.ofMembers, Tree.ofMember, fitMembers_cons_eq_ok]
    exact ⟨read, (fitMember_undeclared hnone).2 ⟨hsound, rfl⟩, ih hrest⟩

/-- A record is read back if its members are, without what is not declared. -/
theorem fit_record_append {title : String} {ms extra : List (String × Value)}
    (hnames : (declared.map (·.1)).Nodup)
    (hms : List.Forall₂ (fun d m => m.1 = d.1 ∧ fit (depth - 1) d.2.1 (.ofValue m.2) = .ok m.2)
      declared ms)
    (hextra : ∀ m ∈ extra, Shape.lookup declared m.1 = none ∧ (Tree.ofValue m.2).sound = true) :
    fit depth (.record title declared) (.ofValue (.object (ms ++ extra))) = .ok (.object ms) := by
  have hsame : ms.map (·.1) = declared.map (·.1) := by
    rw [eq_comm, ← List.forall₂_eq_eq_eq, List.forall₂_map_left_iff, List.forall₂_map_right_iff]
    exact hms.imp fun _ _ h => h.1.symm
  have hdistinct : (ms.map (·.1)).Nodup := hsame ▸ hnames
  have hread : fitMembers (depth - 1) declared [] (Tree.ofMembers ms) = .ok ms := by
    refine fitMembers_ofMembers (fun m hm => ?_) hdistinct
    obtain ⟨d, hd, hname, hv⟩ := exists_of_forall₂ hms hm
    exact ⟨d.2.1, by rw [Shape.lookup_eq, hname, lookup_of_mem hnames hd]; rfl, hv⟩
  have hsplit : Tree.ofMembers (ms ++ extra) = Tree.ofMembers ms ++ Tree.ofMembers extra := by
    simp only [Tree.ofMembers_eq, List.map_append]
  rw [Tree.ofValue, hsplit, fit_record_object]
  refine ⟨rfl, ms, ms, fitMembers_append_eq_ok.2 ⟨ms, hread, fitMembers_sound hextra⟩, ?_, rfl⟩
  exact Shape.fill_of_lookup hsame fun m hm => lookup_of_mem hdistinct hm

theorem fit_record_ofObject {title : String} {ms : List (String × Value)}
    (hnames : (declared.map (·.1)).Nodup)
    (hms : List.Forall₂ (fun d m => m.1 = d.1 ∧ fit (depth - 1) d.2.1 (.ofValue m.2) = .ok m.2)
      declared ms) :
    fit depth (.record title declared) (.ofValue (.object ms)) = .ok (.object ms) := by
  have hread : fit depth (.record title declared) (.ofValue (.object (ms ++ []))) =
      .ok (.object ms) := fit_record_append hnames hms (List.forall_mem_nil _)
  rwa [List.append_nil] at hread

theorem fit_list_map {α : Type} {f : α → Value} {item : Shape} {l : List α}
    (h : ∀ a ∈ l, fit (depth - 1) item (.ofValue (f a)) = .ok (f a)) :
    fit depth (.list item) (.ofValue (.list (l.map f))) = .ok (.list (l.map f)) := by
  rw [Tree.ofValue, fit_list, Tree.ofValues_eq]
  refine ⟨rfl, l.map f, List.forall₂_map_left_iff.2 (List.forall₂_same.2 ?_), rfl⟩
  exact List.forall_mem_map.2 h

@[simp] theorem fit_text_ofText (s : String) :
    fit depth .text (.ofValue (.text s)) = .ok (.text s) := rfl

@[simp] theorem fit_optionalText_ofOption (s : Option String) :
    fit depth .optionalText (.ofValue (.ofOption s)) = .ok (.ofOption s) := by
  cases s <;> rfl

@[simp] theorem fit_flag_ofBool (b : Bool) :
    fit depth .flag (.ofValue (.bool b)) = .ok (.bool b) := rfl

@[simp] theorem fit_list_texts (l : List String) :
    fit depth (.list .text) (.ofValue (.texts l)) = .ok (.texts l) :=
  fit_list_map fun s _ => fit_text_ofText s

theorem mapM_fitText (l : List String) :
    (l.map fun s => Tree.ofValue (.text s)).mapM fitText = .ok l := by
  induction l with
  | nil => rfl
  | cons s rest ih =>
    rw [List.map_cons, List.mapM_cons, ih]
    rfl

theorem fit_textSet_texts {l : List String} (h : l.Nodup) :
    fit depth .textSet (.ofValue (.texts l)) = .ok (.texts l) := by
  rw [Value.texts, Tree.ofValue, Tree.ofValues_eq, List.map_map]
  rw [fit, bind_closing_eq_ok]
  refine ⟨rfl, l, mapM_fitText l, ?_⟩
  rw [firstOfEach_of_nodup h, Value.texts]

@[simp] theorem fit_textSet_ids (s : ImportSet) :
    fit depth .textSet (.ofValue (.texts s.ids)) = .ok (.texts s.ids) :=
  fit_textSet_texts s.nodup

theorem fit_choice_ofText {words : List String} {word : String} (h : word ∈ words) :
    fit depth (.choice words) (.ofValue (.text word)) = .ok (.text word) := by
  have hword : words.contains word = true := by simpa using h
  simp only [Tree.ofValue, fit, fitChoice, fitKey, map_eq_ok, bind_eq_ok]
  exact ⟨word, ⟨word, rfl, if_pos hword⟩, rfl⟩

theorem fit_extensions_entries {d : Dictionary Value}
    (h : ∀ v ∈ d.values, fitFree (depth - 1) (.ofValue v) = .ok v) :
    fit depth .extensions (.ofValue (.object d.entries)) = .ok (.object d.entries) := by
  rw [Tree.ofValue, Tree.ofMembers_eq, fit_extensions]
  refine ⟨rfl, d.entries, List.forall₂_map_left_iff.2 (List.forall₂_same.2 fun e he => ?_), ?_⟩
  · exact ⟨rfl, h e.2 (List.mem_map_of_mem he)⟩
  · rw [Dictionary.ofList_entries]

end Parts

end Json

/-! ### Reading records back -/

section Records

variable {depth : Nat}

open Json

theorem Container.word_mem (c : Container) : c.word ∈ all.map word := by
  cases c <;> decide

theorem Location.word_mem (l : Location) : l.word ∈ all.map word := by
  cases l <;> decide

theorem HttpMethod.word_mem (m : HttpMethod) : m.word ∈ all.map word := by
  cases m <;> decide

theorem Info.fit_toValue (i : Info) :
    fit depth Shape.info (.ofValue i.toValue) = .ok i.toValue := by
  refine fit_record_ofObject ?_ ?_
  · decide
  · simp [Shape.textMember, Shape.optionMember]

theorem Tag.fit_toValue (t : Tag) : fit depth Shape.tag (.ofValue t.toValue) = .ok t.toValue := by
  refine fit_record_ofObject ?_ ?_
  · decide
  · simp [Shape.textMember, Shape.optionMember]

theorem Response.fit_toValue (r : Response) :
    fit depth Shape.response (.ofValue r.toValue) = .ok r.toValue := by
  refine fit_record_ofObject ?_ ?_
  · decide
  · simp [Shape.textMember, Shape.optionMember, Shape.containerMember,
      fit_choice_ofText (Container.word_mem _)]

theorem Parameter.fit_toValue {p : Parameter}
    (h : ∀ v ∈ p.extensions.values, fitFree (depth - 2) (.ofValue v) = .ok v) :
    fit depth Shape.parameter (.ofValue p.toValue) = .ok p.toValue := by
  have hextensions : fit (depth - 1) .extensions (.ofValue (.object p.extensions.entries)) =
      .ok (.object p.extensions.entries) := fit_extensions_entries h
  refine fit_record_ofObject ?_ ?_
  · decide
  · simp [Shape.textMember, Shape.optionMember, Shape.flagMember, Shape.extensionsMember,
      fit_choice_ofText (Location.word_mem _), hextensions]

theorem Operation.fit_toValue {o : Operation}
    (h : ∀ v ∈ o.extensionValues, fitFree (depth - 4) (.ofValue v) = .ok v) :
    fit depth Shape.operation (.ofValue o.toValue) = .ok o.toValue := by
  have hparameter : ∀ p ∈ o.parameters ++ o.implicitHeaders,
      fit (depth - 2) Shape.parameter (.ofValue p.toValue) = .ok p.toValue :=
    fun p hp => Parameter.fit_toValue fun v hv => h v (List.mem_flatMap.2 ⟨p, hp, hv⟩)
  have htags : fit (depth - 1) (.list Shape.tag) (.ofValue (.list (o.tags.map Tag.toValue))) =
      .ok (.list (o.tags.map Tag.toValue)) := fit_list_map fun t _ => t.fit_toValue
  have hparameters : fit (depth - 1) (.list Shape.parameter)
      (.ofValue (.list (o.parameters.map Parameter.toValue))) =
      .ok (.list (o.parameters.map Parameter.toValue)) :=
    fit_list_map fun p hp => hparameter p (List.mem_append_left _ hp)
  have hheaders : fit (depth - 1) (.list Shape.parameter)
      (.ofValue (.list (o.implicitHeaders.map Parameter.toValue))) =
      .ok (.list (o.implicitHeaders.map Parameter.toValue)) :=
    fit_list_map fun p hp => hparameter p (List.mem_append_right _ hp)
  have hresponses : fit (depth - 1) (.list Shape.response)
      (.ofValue (.list (o.responses.map Response.toValue))) =
      .ok (.list (o.responses.map Response.toValue)) := fit_list_map fun r _ => r.fit_toValue
  refine fit_record_ofObject ?_ ?_
  · decide
  · simp [Shape.textMember, Shape.optionMember, Shape.flagMember, Shape.listMember,
      Shape.containerMember, Shape.importsMember, fit_choice_ofText (HttpMethod.word_mem _),
      fit_choice_ofText (Container.word_mem _), htags, hparameters, hheaders, hresponses]

theorem Property.fit_toValue (p : Property) :
    fit depth Shape.property (.ofValue p.toValue) = .ok p.toValue := by
  refine fit_record_ofObject ?_ ?_
  · decide
  · simp [Shape.textMember, Shape.optionMember, Shape.flagMember]

theorem Model.fit_toValue {m : Model}
    (h : ∀ v ∈ m.extensions.values, fitFree (depth - 2) (.ofValue v) = .ok v) :
    fit depth Shape.model (.ofValue m.toValue) = .ok m.toValue := by
  have hproperties : fit (depth - 1) (.list Shape.property)
      (.ofValue (.list (m.properties.map Property.toValue))) =
      .ok (.list (m.properties.map Property.toValue)) := fit_list_map fun p _ => p.fit_toValue
  have hextensions : fit (depth - 1) .extensions (.ofValue (.object m.extensions.entries)) =
      .ok (.object m.extensions.entries) := fit_extensions_entries h
  refine fit_record_ofObject ?_ ?_
  · decide
  · simp [Shape.textMember, Shape.optionMember, Shape.flagMember, Shape.listMember,
      Shape.importsMember, Shape.extensionsMember, hproperties, hextensions]

end Records

/-! ### Taking parts out -/

namespace Value

theorem member_cons (name other : String) (v : Value) (ms : List (String × Value)) :
    (object ((other, v) :: ms)).member name =
      if name = other then v else (object ms).member name := by
  rw [member, List.lookup_cons]
  by_cases h : name = other
  · simp [h]
  · simp [h, beq_false_of_ne h, member]

@[simp] theorem toText_text (s : String) : (text s).toText = s := rfl

@[simp] theorem toBool_bool (b : Bool) : (bool b).toBool = b := rfl

@[simp] theorem toOption_ofOption (s : Option String) : (ofOption s).toOption = s := by
  cases s <;> rfl

@[simp] theorem toItems_texts (l : List String) : (texts l).toItems.map toText = l := by
  rw [texts, toItems, List.map_map]
  exact List.map_id l

@[simp] theorem toItems_map {α : Type} {f : α → Value} {g : Value → α} (h : ∀ a, g (f a) = a)
    (l : List α) : (list (l.map f)).toItems.map g = l := by
  rw [toItems, List.map_map]
  exact List.map_id'' h l

end Value

@[simp] theorem Container.ofValue_word (c : Container) : ofValue (.text c.word) = c := by
  cases c <;> decide

@[simp] theorem Location.toChoice_word (l : Location) :
    (Value.text l.word).toChoice all word .path = l := by
  cases l <;> decide

@[simp] theorem HttpMethod.toChoice_word (m : HttpMethod) :
    (Value.text m.word).toChoice all word .get = m := by
  cases m <;> decide

@[simp] theorem Dictionary.ofList_toMembers (d : Dictionary Value) :
    ofList (Value.object d.entries).toMembers = d := d.ofList_entries

theorem Info.ofValue_toValue (i : Info) : ofValue i.toValue = i := by
  simp [ofValue, toValue, Value.member_cons]

theorem Tag.ofValue_toValue (t : Tag) : ofValue t.toValue = t := by
  simp [ofValue, toValue, Value.member_cons]

theorem Response.ofValue_toValue (r : Response) : ofValue r.toValue = r := by
  simp [ofValue, toValue, Value.member_cons]

theorem Parameter.ofValue_toValue (p : Parameter) : ofValue p.toValue = p := by
  simp [ofValue, toValue, Value.member_cons]

theorem Operation.ofValue_toValue (o : Operation) : ofValue o.toValue = o := by
  simp [ofValue, toValue, Value.member_cons, ImportSet.ofList_ids,
    Value.toItems_map Tag.ofValue_toValue, Value.toItems_map Parameter.ofValue_toValue,
    Value.toItems_map Response.ofValue_toValue]

theorem Property.ofValue_toValue (p : Property) : ofValue p.toValue = p := by
  simp [ofValue, toValue, Value.member_cons]

theorem Model.ofValue_toValue (m : Model) : ofValue m.toValue = m := by
  simp [ofValue, toValue, Value.member_cons, ImportSet.ofList_ids,
    Value.toItems_map Property.ofValue_toValue]

end SpringScaffold
