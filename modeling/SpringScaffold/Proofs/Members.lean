import Mathlib.Logic.Relation
import SpringScaffold.Proofs.Fitting
import SpringScaffold.Spec.Load

/-! What a JSON document is read as depends on the declared members of its records alone: not on
their order, not on members of other names, and not on whether a default is spelled out
(`Spec.ofJson_rewrites`). -/

namespace SpringScaffold

namespace Shape

/-- The name is declared once, with the given shape and default. -/
def Declares (declared : List (String × Shape × Option Value)) (name : String) (shape : Shape)
    (absent : Option Value) : Prop :=
  declared.filter (·.1 = name) = [(name, shape, absent)]

variable {declared : List (String × Shape × Option Value)} {name : String} {shape : Shape}
  {absent : Option Value}

theorem Declares.lookup (h : Declares declared name shape absent) :
    Shape.lookup declared name = some shape := by
  rw [Shape.lookup, ← List.head?_filter, h]
  rfl

theorem Declares.unique (h : Declares declared name shape absent)
    {m : String × Shape × Option Value} (hm : m ∈ declared) (hname : m.1 = name) :
    m.2.2 = absent := by
  have hmem : m ∈ declared.filter (·.1 = name) := List.mem_filter.2 ⟨hm, decide_eq_true hname⟩
  rw [h, List.mem_singleton] at hmem
  rw [hmem]

/-- Filling in depends on the values that are found or stand for their absence. -/
theorem fill_congr {read read' : List (String × Value)}
    (h : ∀ m ∈ declared, (read.lookup m.1).or m.2.2 = (read'.lookup m.1).or m.2.2) :
    fill read declared = fill read' declared := by
  induction declared with
  | nil => rfl
  | cons m rest ih =>
    obtain ⟨name, shape, absent⟩ := m
    obtain ⟨hhead, hrest⟩ := List.forall_mem_cons.1 h
    rw [fill, fill, ih hrest]
    dsimp only at hhead
    rw [hhead]

end Shape

namespace Json

/-- One way to write a document differently. The depth is the one that `fit` is given there. -/
inductive Rewrite : (depth : Nat) → Shape → Tree → Tree → Prop where
  /-- The members of a record in another order. -/
  | reordered {depth title declared ms ms'} :
    ms.Perm ms' → Rewrite depth (.record title declared) (.object ms none) (.object ms' none)
  /-- A member of another name, whatever stands in it. -/
  | added {depth title declared before after name t} :
    Shape.lookup declared name = none → t.sound = true →
    Rewrite depth (.record title declared) (.object (before ++ after) none)
      (.object (before ++ (some name, t) :: after) none)
  /-- A default left out. -/
  | omitted {depth title declared before after name shape absent t} :
    Shape.Declares declared name shape (some absent) → fit (depth - 1) shape t = .ok absent →
    Rewrite depth (.record title declared) (.object (before ++ (some name, t) :: after) none)
      (.object (before ++ after) none)
  /-- A default spelled out. -/
  | spelled {depth title declared before after name shape absent t} :
    Shape.Declares declared name shape (some absent) → fit (depth - 1) shape t = .ok absent →
    (∀ m ∈ before ++ after, m.1 ≠ some name) →
    Rewrite depth (.record title declared) (.object (before ++ after) none)
      (.object (before ++ (some name, t) :: after) none)
  /-- In a declared member of a record. -/
  | member {depth title declared before after name shape t t'} :
    Shape.lookup declared name = some shape → Rewrite (depth - 1) shape t t' →
    Rewrite depth (.record title declared) (.object (before ++ (some name, t) :: after) none)
      (.object (before ++ (some name, t') :: after) none)
  /-- In a member of a record that is given as a list. -/
  | position {depth title earlier later before after name shape absent t t' closed} :
    earlier.length = before.length → Rewrite (depth - 1) shape t t' →
    Rewrite depth (.record title (earlier ++ (name, shape, absent) :: later))
      (.list (before ++ t :: after) closed) (.list (before ++ t' :: after) closed)
  /-- In an item of a list. -/
  | item {depth shape before after t t' closed} :
    Rewrite (depth - 1) shape t t' →
    Rewrite depth (.list shape) (.list (before ++ t :: after) closed)
      (.list (before ++ t' :: after) closed)

/-- Null for an optional text that is absent. -/
theorem Rewrite.null {depth : Nat} {title : String} {declared before after} {name : String}
    (hname : Shape.Declares declared name .optionalText (some .null))
    (habsent : ∀ m ∈ before ++ after, m.1 ≠ some name) :
    Rewrite depth (.record title declared) (.object (before ++ after) none)
      (.object (before ++ (some name, .null) :: after) none) :=
  .spelled hname rfl habsent

section Parts

variable {depth : Nat} {title : String} {declared : List (String × Shape × Option Value)}

/-- A record reads the same if its members do, up to the defaults. -/
theorem fit_record_of_lookup {ms ms' : List (Option String × Tree)} {v : Value}
    (h : fit depth (.record title declared) (.object ms none) = .ok v)
    (hsame : ∀ read, fitMembers (depth - 1) declared [] ms = .ok read →
      ∃ read', fitMembers (depth - 1) declared [] ms' = .ok read' ∧
        ∀ m ∈ declared, (read.lookup m.1).or m.2.2 = (read'.lookup m.1).or m.2.2) :
    fit depth (.record title declared) (.object ms' none) = .ok v := by
  obtain ⟨-, read, out, hread, hfill, rfl⟩ := fit_record_object.1 h
  obtain ⟨read', hread', hlookup⟩ := hsame read hread
  refine fit_record_object.2 ⟨rfl, read', out, hread', ?_, rfl⟩
  rw [← Shape.fill_congr hlookup, hfill]

/-- Reading a default under a name fills in to the same as reading nothing there. -/
theorem or_of_default {name : String} {shape : Shape} {absent : Value}
    (hname : Shape.Declares declared name shape (some absent)) {read read' : List (String × Value)}
    (hread : read.lookup name = some absent) (hread' : read'.lookup name = none)
    (hothers : ∀ other, other ≠ name → read.lookup other = read'.lookup other) :
    ∀ m ∈ declared, (read.lookup m.1).or m.2.2 = (read'.lookup m.1).or m.2.2 := by
  intro m hm
  by_cases hn : m.1 = name
  · rw [hname.unique hm hn, hn, hread, hread']
    rfl
  · rw [hothers m.1 hn]

/-- A default that is spelled out may be left out. -/
theorem fit_omitted {name : String} {shape : Shape} {absent : Value} {t : Tree}
    {before after : List (Option String × Tree)} {v : Value}
    (hname : Shape.Declares declared name shape (some absent))
    (ht : fit (depth - 1) shape t = .ok absent)
    (h : fit depth (.record title declared) (.object (before ++ (some name, t) :: after) none) =
      .ok v) : fit depth (.record title declared) (.object (before ++ after) none) = .ok v := by
  refine fit_record_of_lookup h fun read hread => ?_
  -- the member is read first, and the others are read as if it had not been there
  obtain ⟨first, hfirst, hsame⟩ := fitMembers_perm List.perm_middle hread
  obtain ⟨next, hm, hrest⟩ := fitMembers_cons_eq_ok.1 hfirst
  obtain ⟨-, w, hw, rfl⟩ := (fitMember_declared hname.lookup).1 hm
  obtain rfl : w = absent := Except.ok.inj (hw.symm.trans ht)
  have hnext : List.lookup name ([] ++ [(name, w)]) = some w := by simp
  have hothers := ne_of_lookup hrest hname.lookup hnext
  obtain ⟨read', hread', hknown⟩ := fitMembers_congr (· ≠ name) [] hrest
    (fun other hne => by simp [List.lookup_cons, beq_false_of_ne hne])
    fun m hm other hother he => hothers m hm (he ▸ hother)
  refine ⟨read', hread', or_of_default hname ?_ ?_ fun other hne => ?_⟩
  · rw [hsame, fitMembers_lookup hrest hothers, hnext]
  · rw [fitMembers_lookup hread' hothers]
    rfl
  · rw [hsame, hknown other hne]

/-- A default that is left out may be spelled out. -/
theorem fit_spelled {name : String} {shape : Shape} {absent : Value} {t : Tree}
    {before after : List (Option String × Tree)} {v : Value}
    (hname : Shape.Declares declared name shape (some absent))
    (ht : fit (depth - 1) shape t = .ok absent)
    (habsent : ∀ m ∈ before ++ after, m.1 ≠ some name)
    (h : fit depth (.record title declared) (.object (before ++ after) none) = .ok v) :
    fit depth (.record title declared) (.object (before ++ (some name, t) :: after) none) =
      .ok v := by
  refine fit_record_of_lookup h fun read hread => ?_
  obtain ⟨first, hrest, hknown⟩ := fitMembers_congr (· ≠ name) [(name, absent)] hread
    (fun other hne => by simp [List.lookup_cons, beq_false_of_ne hne])
    fun m hm other hother he => habsent m hm (he ▸ hother)
  have hm : fitMember (depth - 1) declared [] (some name, t) = .ok [(name, absent)] :=
    (fitMember_declared hname.lookup).2 ⟨rfl, absent, ht, rfl⟩
  obtain ⟨read', hread', hsame⟩ :=
    fitMembers_perm List.perm_middle.symm (fitMembers_cons_eq_ok.2 ⟨_, hm, hrest⟩)
  refine ⟨read', hread', fun m hm => (or_of_default hname ?_ ?_ (fun other hne => ?_) m hm).symm⟩
  · rw [← hsame, fitMembers_lookup hrest habsent]
    simp
  · rw [fitMembers_lookup hread habsent]
    rfl
  · rw [← hsame, hknown other hne]

theorem fitItems_replace {item : Shape} {t t' : Tree} {before after : List Tree} {vs : List Value}
    (ht : ∀ v, fit depth item t = .ok v → fit depth item t' = .ok v)
    (h : fitItems depth item (before ++ t :: after) = .ok vs) :
    fitItems depth item (before ++ t' :: after) = .ok vs := by
  induction before generalizing vs with
  | nil =>
    simp only [List.nil_append, fitItems, bind_eq_ok] at h ⊢
    obtain ⟨v, hv, h⟩ := h
    exact ⟨v, ht v hv, h⟩
  | cons u before ih =>
    simp only [List.cons_append, fitItems, bind_eq_ok] at h ⊢
    obtain ⟨v, hv, ws, hws, h⟩ := h
    exact ⟨v, hv, ws, ih hws, h⟩

theorem fitPositions_replace {total place : Nat} {name : String} {shape : Shape}
    {absent : Option Value} {earlier later : List (String × Shape × Option Value)} {t t' : Tree}
    {before after : List Tree} {closed : Bool} {ms : List (String × Value)}
    (hlength : earlier.length = before.length)
    (ht : ∀ v, fit depth shape t = .ok v → fit depth shape t' = .ok v)
    (h : fitPositions depth title total place (earlier ++ (name, shape, absent) :: later)
      (before ++ t :: after) closed = .ok ms) :
    fitPositions depth title total place (earlier ++ (name, shape, absent) :: later)
      (before ++ t' :: after) closed = .ok ms := by
  induction before generalizing earlier place ms with
  | nil =>
    obtain rfl := List.eq_nil_of_length_eq_zero hlength
    simp only [List.nil_append, fitPositions, bind_eq_ok] at h ⊢
    obtain ⟨v, hv, h⟩ := h
    exact ⟨v, ht v hv, h⟩
  | cons u before ih =>
    obtain ⟨⟨name', shape', absent'⟩, earlier, rfl⟩ := List.exists_cons_of_length_eq_add_one hlength
    simp only [List.cons_append, fitPositions, bind_eq_ok] at h ⊢
    obtain ⟨v, hv, ws, hws, h⟩ := h
    exact ⟨v, hv, ws, ih (by simpa using hlength) hws, h⟩

end Parts

/-- A document that is written differently is read as the same. -/
theorem Rewrite.fit_eq {depth : Nat} {shape : Shape} {t t' : Tree} (h : Rewrite depth shape t t')
    {v : Value} (hfit : fit depth shape t = .ok v) : fit depth shape t' = .ok v := by
  induction h generalizing v with
  | reordered hperm =>
    refine fit_record_of_lookup hfit fun read hread => ?_
    obtain ⟨read', hread', hsame⟩ := fitMembers_perm hperm hread
    exact ⟨read', hread', fun m _ => by rw [hsame]⟩
  | @added depth title declared before after name t hnone hsound =>
    refine fit_record_of_lookup hfit fun read hread => ⟨read, ?_, fun _ _ => rfl⟩
    obtain ⟨mid, hbefore, hafter⟩ := fitMembers_append_eq_ok.1 hread
    have hm : fitMember (depth - 1) declared mid (some name, t) = .ok mid :=
      (fitMember_undeclared hnone).2 ⟨hsound, rfl⟩
    exact fitMembers_append_eq_ok.2 ⟨mid, hbefore, fitMembers_cons_eq_ok.2 ⟨mid, hm, hafter⟩⟩
  | omitted hname ht => exact fit_omitted hname ht hfit
  | spelled hname ht habsent => exact fit_spelled hname ht habsent hfit
  | member hshape _ ih =>
    refine fit_record_of_lookup hfit fun read hread => ⟨read, ?_, fun _ _ => rfl⟩
    obtain ⟨mid, hbefore, h⟩ := fitMembers_append_eq_ok.1 hread
    obtain ⟨next, hm, hafter⟩ := fitMembers_cons_eq_ok.1 h
    refine fitMembers_append_eq_ok.2 ⟨mid, hbefore, fitMembers_cons_eq_ok.2 ⟨next, ?_, hafter⟩⟩
    obtain ⟨hfirst, w, hw, hnext⟩ := (fitMember_declared hshape).1 hm
    exact (fitMember_declared hshape).2 ⟨hfirst, w, ih hw, hnext⟩
  | position hlength _ ih =>
    obtain ⟨ms, hms, rfl⟩ := fit_record_list.1 hfit
    exact fit_record_list.2 ⟨ms, fitPositions_replace hlength (fun _ => ih) hms, rfl⟩
  | item _ ih =>
    obtain ⟨hclosed, vs, hvs, rfl⟩ := fit_list.1 hfit
    exact fit_list.2 ⟨hclosed, vs, fitItems_eq_ok.1
      (fitItems_replace (fun _ => ih) (fitItems_eq_ok.2 hvs)), rfl⟩

theorem fit_eq_of_rewrites {depth : Nat} {shape : Shape} {t t' : Tree}
    (h : Relation.ReflTransGen (Rewrite depth shape) t t') {v : Value}
    (hfit : fit depth shape t = .ok v) : fit depth shape t' = .ok v := by
  induction h with
  | refl => exact hfit
  | tail _ hlast ih => exact hlast.fit_eq ih

end Json

/-- A document loads to the same description however it is written. -/
theorem Spec.ofJson_rewrites {a b : String} {s : Spec} (h : Spec.ofJson a = .ok s)
    (hrewrites : Relation.ReflTransGen (Json.Rewrite Json.depthLimit Shape.spec) (Json.read a).1
      (Json.read b).1) (hended : (Json.read b).2 = true) : Spec.ofJson b = .ok s := by
  rw [Spec.ofJson, Json.map_eq_ok] at h ⊢
  obtain ⟨v, hv, rfl⟩ := h
  obtain ⟨-, hfit⟩ := Json.document_eq_ok.1 hv
  refine ⟨v, Json.document_eq_ok.2 ⟨hended, ?_⟩, rfl⟩
  exact Json.fit_eq_of_rewrites hrewrites hfit

/-- A document that spells out what it leaves empty. -/
def shopText : String :=
  "\x7b\"info\":\x7b\"title\":\"Shop\",\"version\":\"1.0\"\x7d,\"operations\":[]\x7d"

/-- The same document, written differently at every place. -/
def shopTextAgain : String :=
  "\x7b\"groups\":[7],\"info\":\x7b\"version\":\"1.0\",\"title\":\"Shop\",\"description\":null"
    ++ "\x7d\x7d"

theorem Spec.ofJson_shopText :
    ∃ s, (Spec.ofJson shopText = .ok s ∧ Relation.ReflTransGen
      (Json.Rewrite Json.depthLimit Shape.spec) (Json.read shopText).1 (Json.read shopTextAgain).1 ∧
      (Json.read shopTextAgain).2 = true) ∧ Spec.ofJson shopTextAgain = .ok s := by
  let title : Option String × Json.Tree := (some "title", .text (some "Shop"))
  let version : Option String × Json.Tree := (some "version", .text (some "1.0"))
  let groups : Option String × Json.Tree :=
    (some "groups", .list [.number ⟨false, [7], [], none⟩] true)
  have hbefore : (Json.read shopText).1 = .object [
      (some "info", .object [title, version] none), (some "operations", .list [] true)] none := rfl
  have hafter : (Json.read shopTextAgain).1 = .object [groups,
      (some "info", .object [version, title, (some "description", .null)] none)] none := rfl
  have homitted : Json.Rewrite Json.depthLimit Shape.spec
      (.object [(some "info", .object [title, version] none),
        (some "operations", .list [] true)] none)
      (.object [(some "info", .object [title, version] none)] none) :=
    @Json.Rewrite.omitted _ _ _ [_] [] _ _ _ _ rfl rfl
  have hadded : Json.Rewrite Json.depthLimit Shape.spec
      (.object [(some "info", .object [title, version] none)] none)
      (.object [groups, (some "info", .object [title, version] none)] none) :=
    @Json.Rewrite.added _ _ _ [] [_] _ _ rfl rfl
  have hreordered : Json.Rewrite Json.depthLimit Shape.spec
      (.object [groups, (some "info", .object [title, version] none)] none)
      (.object [groups, (some "info", .object [version, title] none)] none) :=
    @Json.Rewrite.member _ _ _ [_] [] _ _ _ _ rfl (.reordered (.swap _ _ _))
  have hnull : Json.Rewrite Json.depthLimit Shape.spec
      (.object [groups, (some "info", .object [version, title] none)] none)
      (.object [groups, (some "info", .object [version, title, (some "description", .null)] none)]
        none) :=
    @Json.Rewrite.member _ _ _ [_] [] _ _ _ _ rfl
      (@Json.Rewrite.null _ _ _ [_, _] [] _ rfl (by decide))
  have hrewrites :=
    (((Relation.ReflTransGen.single homitted).tail hadded).tail hreordered).tail hnull
  rw [← hbefore, ← hafter] at hrewrites
  have hended : (Json.read shopTextAgain).2 = true := by decide +kernel
  have hloads : (Spec.ofJson shopText).isOk = true := by decide +kernel
  cases hs : Spec.ofJson shopText with
  | error fault => simp [hs, Except.isOk, Except.toBool] at hloads
  | ok s => exact ⟨s, ⟨rfl, hrewrites, hended⟩, Spec.ofJson_rewrites hs hrewrites hended⟩

end SpringScaffold
