import Mathlib.Data.List.Forall2
import SpringScaffold.Json.Document

/-! What it takes for a JSON tree to fit a shape, one lemma for each kind of part: members, records,
lists, and lists that stand for records. -/

namespace SpringScaffold.Json

theorem bind_eq_ok {ε α β : Type} {x : Except ε α} {f : α → Except ε β} {b : β} :
    (x >>= f) = .ok b ↔ ∃ a, x = .ok a ∧ f a = .ok b := by
  cases x <;> simp [bind, Except.bind]

theorem map_eq_ok {ε α β : Type} {x : Except ε α} {f : α → β} {b : β} :
    x.map f = .ok b ↔ ∃ a, x = .ok a ∧ b = f a := by
  cases x <;> simp [Except.map, eq_comm]

theorem pure_eq_ok {ε α : Type} {a b : α} : (pure a : Except ε α) = .ok b ↔ b = a := by
  rw [pure, Applicative.toPure, eq_comm (a := b)]
  exact Except.ok.injEq a b ▸ Iff.rfl

theorem closing_eq_ok {closed : Bool} {u : Unit} : closing closed = .ok u ↔ closed = true := by
  cases closed <;> simp [closing]

/-- What is read before a closing bracket or brace. -/
theorem bind_closing_eq_ok {α β : Type} {x : Fitted α} {closed : Bool} {f : α → β} {b : β} :
    (do let a ← x; closing closed; return f a) = .ok b ↔
      closed = true ∧ ∃ a, x = .ok a ∧ b = f a := by
  simp only [bind_eq_ok, closing_eq_ok, pure_eq_ok]
  constructor
  · rintro ⟨a, ha, _, rfl, rfl⟩
    exact ⟨rfl, a, ha, rfl⟩
  · rintro ⟨rfl, a, ha, rfl⟩
    exact ⟨a, ha, (), rfl, rfl⟩

theorem fitKey_eq_ok {key : Option String} {name : String} :
    fitKey key = .ok name ↔ key = some name := by
  cases key <;> simp [fitKey]

theorem refuse_ne_ok {α : Type} (t : Tree) (wanted : String) (a : α) :
    refuse t wanted ≠ .ok a := by
  rw [refuse, Ne, bind_eq_ok]
  rintro ⟨f, -, h⟩
  cases h

section Parts

variable {depth : Nat} {declared : List (String × Shape × Option Value)} {title : String}

/-- An undeclared member is passed over. -/
theorem fitMember_undeclared {name : String} (h : Shape.lookup declared name = none)
    {read out : List (String × Value)} {t : Tree} :
    fitMember depth declared read (some name, t) = .ok out ↔ t.sound = true ∧ out = read := by
  simp only [fitMember, fitKey, h, bind_eq_ok, closing_eq_ok, pure_eq_ok, Except.ok.injEq,
    exists_eq_left', exists_and_left, exists_const]

/-- A declared member is read unless its name came before. -/
theorem fitMember_declared {name : String} {shape : Shape}
    (h : Shape.lookup declared name = some shape) {read out : List (String × Value)} {t : Tree} :
    fitMember depth declared read (some name, t) = .ok out ↔
      read.lookup name = none ∧ ∃ v, fit depth shape t = .ok v ∧ out = read ++ [(name, v)] := by
  simp only [fitMember, fitKey, h, bind_eq_ok, Except.ok.injEq, exists_eq_left']
  cases read.lookup name with
  | some v => simp
  | none =>
    simp only [Option.isSome_none, Bool.false_eq_true, if_false, bind_eq_ok, pure_eq_ok, true_and]

theorem fitMember_eq_ok {read out : List (String × Value)} {m : Option String × Tree} :
    fitMember depth declared read m = .ok out ↔ ∃ name, m.1 = some name ∧
      (Shape.lookup declared name = none ∧ m.2.sound = true ∧ out = read ∨
        ∃ shape v, Shape.lookup declared name = some shape ∧ read.lookup name = none ∧
          fit depth shape m.2 = .ok v ∧ out = read ++ [(name, v)]) := by
  obtain ⟨key, t⟩ := m
  cases key with
  | none => simp [fitMember, bind_eq_ok, fitKey_eq_ok]
  | some name =>
    simp only [Option.some.injEq, exists_eq_left']
    cases h : Shape.lookup declared name with
    | none => simp [fitMember_undeclared h]
    | some shape => simp [fitMember_declared h]

theorem fitMembers_cons_eq_ok {read out : List (String × Value)} {m : Option String × Tree}
    {rest : List (Option String × Tree)} :
    fitMembers depth declared read (m :: rest) = .ok out ↔
      ∃ next, fitMember depth declared read m = .ok next ∧
        fitMembers depth declared next rest = .ok out := by
  rw [fitMembers, bind_eq_ok]

theorem fitMembers_append_eq_ok {read out : List (String × Value)}
    {ms rest : List (Option String × Tree)} :
    fitMembers depth declared read (ms ++ rest) = .ok out ↔
      ∃ mid, fitMembers depth declared read ms = .ok mid ∧
        fitMembers depth declared mid rest = .ok out := by
  induction ms generalizing read with
  | nil => simp [fitMembers]
  | cons m ms ih =>
    simp only [List.cons_append, fitMembers_cons_eq_ok, ih]
    constructor
    · rintro ⟨next, hm, mid, hms, hrest⟩
      exact ⟨mid, ⟨next, hm, hms⟩, hrest⟩
    · rintro ⟨mid, ⟨next, hm, hms⟩, hrest⟩
      exact ⟨next, hm, mid, hms, hrest⟩

/-- Members of other names leave alone what was read under a name. -/
theorem fitMembers_lookup {read out : List (String × Value)} {ms : List (Option String × Tree)}
    (h : fitMembers depth declared read ms = .ok out) {name : String}
    (hname : ∀ m ∈ ms, m.1 ≠ some name) : out.lookup name = read.lookup name := by
  induction ms generalizing read with
  | nil =>
    rw [fitMembers, Except.ok.injEq] at h
    rw [h]
  | cons m ms ih =>
    obtain ⟨next, hm, hms⟩ := fitMembers_cons_eq_ok.1 h
    rw [ih hms fun m hm => hname m (List.mem_cons_of_mem _ hm)]
    obtain ⟨other, hother, ⟨-, -, rfl⟩ | ⟨shape, v, -, -, -, rfl⟩⟩ := fitMember_eq_ok.1 hm
    · rfl
    · have hne : name ≠ other := fun he => hname m List.mem_cons_self (he ▸ hother)
      simp [List.lookup_append, List.lookup_cons, beq_false_of_ne hne]

/-- A declared member that was read does not come again. -/
theorem ne_of_lookup {read out : List (String × Value)} {ms : List (Option String × Tree)}
    (h : fitMembers depth declared read ms = .ok out) {name : String} {shape : Shape} {v : Value}
    (hshape : Shape.lookup declared name = some shape) (hread : read.lookup name = some v) :
    ∀ m ∈ ms, m.1 ≠ some name := by
  induction ms generalizing read with
  | nil => simp
  | cons m ms ih =>
    obtain ⟨next, hm, hms⟩ := fitMembers_cons_eq_ok.1 h
    obtain ⟨other, hother, hcases⟩ := fitMember_eq_ok.1 hm
    have hnext : next.lookup name = some v := by
      rcases hcases with ⟨-, -, rfl⟩ | ⟨_, w, -, -, -, rfl⟩
      · exact hread
      · rw [List.lookup_append, hread, Option.some_or]
    have hne : other ≠ name := by
      rintro rfl
      rcases hcases with ⟨hnone, -⟩ | ⟨_, w, -, hnone, -⟩
      · cases hnone.symm.trans hshape
      · cases hnone.symm.trans hread
    refine List.forall_mem_cons.2 ⟨?_, ih hms hnext⟩
    rw [hother]
    exact fun he => hne (Option.some.inj he)

/-- Only what was read under the names of the members themselves matters. -/
theorem fitMembers_congr (known : String → Prop) (read' : List (String × Value))
    {read out : List (String × Value)} {ms : List (Option String × Tree)}
    (h : fitMembers depth declared read ms = .ok out)
    (hread : ∀ name, known name → read.lookup name = read'.lookup name)
    (hms : ∀ m ∈ ms, ∀ name, m.1 = some name → known name) :
    ∃ out', fitMembers depth declared read' ms = .ok out' ∧
      ∀ name, known name → out.lookup name = out'.lookup name := by
  induction ms generalizing read read' with
  | nil =>
    rw [fitMembers, Except.ok.injEq] at h
    exact ⟨read', rfl, h ▸ hread⟩
  | cons m ms ih =>
    obtain ⟨next, hm, hrest⟩ := fitMembers_cons_eq_ok.1 h
    obtain ⟨hhead, htail⟩ := List.forall_mem_cons.1 hms
    obtain ⟨name, hname, hcases⟩ := fitMember_eq_ok.1 hm
    obtain ⟨next', hm', hnext⟩ : ∃ next', fitMember depth declared read' m = .ok next' ∧
        ∀ name, known name → next.lookup name = next'.lookup name := by
      rcases hcases with ⟨hnone, hsound, rfl⟩ | ⟨shape, v, hshape, hfirst, hv, rfl⟩
      · exact ⟨read', fitMember_eq_ok.2 ⟨name, hname, .inl ⟨hnone, hsound, rfl⟩⟩, hread⟩
      · have hfirst' : read'.lookup name = none := (hread name (hhead name hname)).symm.trans hfirst
        refine ⟨_, fitMember_eq_ok.2 ⟨name, hname, .inr ⟨shape, v, hshape, hfirst', hv, rfl⟩⟩, ?_⟩
        intro other hother
        rw [List.lookup_append, List.lookup_append, hread other hother]
    obtain ⟨out', hout', hsame⟩ := ih next' hrest hnext htail
    exact ⟨out', fitMembers_cons_eq_ok.2 ⟨next', hm', hout'⟩, hsame⟩

/-- Two members that follow one another may change places. -/
theorem fitMember_swap {read next out : List (String × Value)} {a b : Option String × Tree}
    (ha : fitMember depth declared read a = .ok next)
    (hb : fitMember depth declared next b = .ok out) :
    ∃ next' out', fitMember depth declared read b = .ok next' ∧
      fitMember depth declared next' a = .ok out' ∧
      ∀ name, out.lookup name = out'.lookup name := by
  obtain ⟨na, hna, ⟨hnone, hsound, rfl⟩ | ⟨shape, v, hshape, hfirst, hv, rfl⟩⟩ :=
    fitMember_eq_ok.1 ha
  · exact ⟨out, out, hb, fitMember_eq_ok.2 ⟨na, hna, .inl ⟨hnone, hsound, rfl⟩⟩, fun _ => rfl⟩
  · obtain ⟨nb, hnb, ⟨hnone, hsound, rfl⟩ | ⟨shape', w, hshape', hfirst', hw, rfl⟩⟩ :=
      fitMember_eq_ok.1 hb
    · exact ⟨read, _, fitMember_eq_ok.2 ⟨nb, hnb, .inl ⟨hnone, hsound, rfl⟩⟩, ha, fun _ => rfl⟩
    · rw [List.lookup_append, Option.or_eq_none_iff] at hfirst'
      obtain ⟨hbefore, hother⟩ := hfirst'
      have hne : nb ≠ na := by
        rintro rfl
        simp at hother
      have hafter : (read ++ [(nb, w)]).lookup na = none := by
        simp [List.lookup_append, hfirst, List.lookup_cons, beq_false_of_ne hne.symm]
      refine ⟨_, _, fitMember_eq_ok.2 ⟨nb, hnb, .inr ⟨shape', w, hshape', hbefore, hw, rfl⟩⟩,
        fitMember_eq_ok.2 ⟨na, hna, .inr ⟨shape, v, hshape, hafter, hv, rfl⟩⟩, fun name => ?_⟩
      by_cases hn : name = na
      · simp [List.lookup_append, List.lookup_cons, hn, beq_false_of_ne hne.symm]
      · simp [List.lookup_append, List.lookup_cons, beq_false_of_ne hn]

/-- The order of the members does not matter. -/
theorem fitMembers_perm {ms ms' : List (Option String × Tree)} (hperm : ms.Perm ms')
    {read out : List (String × Value)} (h : fitMembers depth declared read ms = .ok out) :
    ∃ out', fitMembers depth declared read ms' = .ok out' ∧
      ∀ name, out.lookup name = out'.lookup name := by
  induction hperm generalizing read out with
  | nil => exact ⟨out, h, fun _ => rfl⟩
  | cons m _ ih =>
    obtain ⟨next, hm, hms⟩ := fitMembers_cons_eq_ok.1 h
    obtain ⟨out', hout', hsame⟩ := ih hms
    exact ⟨out', fitMembers_cons_eq_ok.2 ⟨next, hm, hout'⟩, hsame⟩
  | swap a b rest =>
    obtain ⟨mid, hb, h⟩ := fitMembers_cons_eq_ok.1 h
    obtain ⟨next, ha, hrest⟩ := fitMembers_cons_eq_ok.1 h
    obtain ⟨mid', next', ha', hb', hnext⟩ := fitMember_swap hb ha
    obtain ⟨out', hout', hsame⟩ := fitMembers_congr (fun _ => True) next' hrest
      (fun name _ => hnext name) fun _ _ _ _ => trivial
    exact ⟨out', fitMembers_cons_eq_ok.2 ⟨mid', ha', fitMembers_cons_eq_ok.2 ⟨next', hb', hout'⟩⟩,
      fun name => hsame name trivial⟩
  | trans _ _ ih ih' =>
    obtain ⟨mid, hmid, hsame⟩ := ih h
    obtain ⟨out', hout', hsame'⟩ := ih' hmid
    exact ⟨out', hout', fun name => (hsame name).trans (hsame' name)⟩

theorem fit_record_object {ms : List (Option String × Tree)} {stray : Option Tree} {v : Value} :
    fit depth (.record title declared) (.object ms stray) = .ok v ↔
      stray = none ∧ ∃ read out, fitMembers (depth - 1) declared [] ms = .ok read ∧
        Shape.fill read declared = .ok out ∧ v = .object out := by
  rw [fit, bind_eq_ok]
  constructor
  · rintro ⟨read, hread, h⟩
    obtain ⟨u, hstray, h⟩ := bind_eq_ok.1 h
    refine ⟨Option.isNone_iff_eq_none.1 (closing_eq_ok.1 hstray), read, ?_⟩
    cases hfill : Shape.fill read declared with
    | error name => simp [hfill] at h
    | ok out =>
      rw [hfill] at h
      exact ⟨out, hread, rfl, pure_eq_ok.1 h⟩
  · rintro ⟨rfl, read, out, hread, hfill, rfl⟩
    refine ⟨read, hread, ?_⟩
    rw [bind_eq_ok]
    exact ⟨(), rfl, by rw [hfill]; rfl⟩

theorem fitItems_eq_ok {item : Shape} {items : List Tree} {vs : List Value} :
    fitItems depth item items = .ok vs ↔
      List.Forall₂ (fun t v => fit depth item t = .ok v) items vs := by
  induction items generalizing vs with
  | nil => cases vs <;> simp [fitItems]
  | cons t rest ih =>
    simp only [fitItems, bind_eq_ok, List.forall₂_cons_left_iff, pure_eq_ok]
    constructor
    · rintro ⟨v, hv, ws, hws, rfl⟩
      exact ⟨v, ws, hv, ih.1 hws, rfl⟩
    · rintro ⟨v, ws, hv, hws, rfl⟩
      exact ⟨v, hv, ws, ih.2 hws, rfl⟩

theorem fit_list {item : Shape} {items : List Tree} {closed : Bool} {v : Value} :
    fit depth (.list item) (.list items closed) = .ok v ↔
      closed = true ∧ ∃ vs, List.Forall₂ (fun t v => fit (depth - 1) item t = .ok v) items vs ∧
        v = .list vs := by
  simp only [fit, bind_closing_eq_ok, fitItems_eq_ok]

theorem fit_record_list {items : List Tree} {closed : Bool} {v : Value} :
    fit depth (.record title declared) (.list items closed) = .ok v ↔
      ∃ ms, fitPositions (depth - 1) title declared.length 0 declared items closed = .ok ms ∧
        v = .object ms := by
  simp only [fit, bind_eq_ok, pure_eq_ok]

end Parts

theorem document_eq_ok {shape : Shape} {text : String} {v : Value} :
    document shape text = .ok v ↔
      (read text).2 = true ∧ fit depthLimit shape (read text).1 = .ok v := by
  rw [document, bind_closing_eq_ok]
  simp only [exists_eq_right']

end SpringScaffold.Json
