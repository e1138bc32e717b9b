import SpringScaffold.Proofs.Pointwise
import SpringScaffold.Proofs.YamlFitting
import SpringScaffold.Spec.Load

/-! The values in the vendor extensions of a description. No stage makes one
(`Spec.parameterValues_postProcess`, `Spec.modelValues_postProcess`), and in a description that was
loaded they are as free values of the document are read (`Reading.parameterValues`,
`Reading.modelValues`). -/

namespace SpringScaffold

namespace Dictionary

variable {α : Type}

def values (d : Dictionary α) : List α := d.entries.map (·.2)

theorem mem_put {key : String} {value : α} {l : List (String × α)} {e : String × α}
    (h : e ∈ put key value l) : e = (key, value) ∨ e ∈ l := by
  induction l with
  | nil => exact .inl (List.mem_singleton.1 h)
  | cons n rest ih =>
    obtain ⟨k, v⟩ := n
    rw [put] at h
    split at h
    · next hk => exact (List.mem_cons.1 h).imp (hk ▸ ·) (List.mem_cons_of_mem _)
    · rcases List.mem_cons.1 h with rfl | h
      · exact .inr List.mem_cons_self
      · exact (ih h).imp_right (List.mem_cons_of_mem _)

theorem entries_ofList (l : List (String × α)) :
    (ofList l).entries = l.foldl (fun acc e => put e.1 e.2 acc) [] :=
  (List.foldl_hom entries fun _ _ => rfl).symm

theorem mem_of_mem_ofList {l : List (String × α)} {e : String × α} (h : e ∈ (ofList l).entries) :
    e ∈ l := by
  rw [entries_ofList] at h
  exact (mem_or_mem_of_mem_foldl (fun _ _ _ => mem_put) h).resolve_left List.not_mem_nil

end Dictionary

/-! ### Stages -/

/-- The values in the vendor extensions of parameters and implicit headers. -/
def Operation.extensionValues (o : Operation) : List Value :=
  (o.parameters ++ o.implicitHeaders).flatMap (·.extensions.values)

theorem Stage.extensionValues_onOperation (f : String → String) (stage : Stage) (o : Operation) :
    (stage.onOperation f o).extensionValues ⊆ o.extensionValues := by
  cases stage with
  | modelNames =>
    have hmap : (o.mapTypes f).extensionValues = o.extensionValues := by
      simp [Operation.extensionValues, Operation.mapTypes, List.flatMap_map, Parameter.mapType]
    exact hmap ▸ List.Subset.refl _
  | operationImports =>
    rw [onOperation, Operation.addImports_eq]
    exact List.Subset.refl _
  | operations =>
    rw [onOperation, Operation.normalize_eq]
    intro v
    simp only [Operation.extensionValues, List.mem_flatMap, List.mem_append, List.mem_filter]
    rintro ⟨p, ⟨hp, -⟩ | hp | ⟨hp, -⟩, hv⟩
    · exact ⟨p, .inl hp, hv⟩
    · exact ⟨p, .inr hp, hv⟩
    · exact ⟨p, .inl hp, hv⟩
  | modelProperties => exact List.Subset.refl _
  | groups => exact List.Subset.refl _

theorem Stage.extensions_onModel (o : Options) (f : String → String) (stage : Stage) (m : Model) :
    (stage.onModel o f m).extensions = m.extensions := by
  cases stage <;> rfl

namespace Spec

def parameterValues (s : Spec) : List Value := s.operations.flatMap Operation.extensionValues

def modelValues (s : Spec) : List Value := s.models.flatMap (·.extensions.values)

def extensionValues (s : Spec) : List Value := s.parameterValues ++ s.modelValues

theorem parameterValues_run (o : Options) (mode : GroupBy) (stage : Stage) (s : Spec) :
    (stage.run o mode s).parameterValues ⊆ s.parameterValues := by
  intro v
  simp only [parameterValues, Stage.run_eq, List.flatMap_map, List.mem_flatMap]
  rintro ⟨op, hop, hv⟩
  exact ⟨op, hop, stage.extensionValues_onOperation _ op hv⟩

theorem modelValues_run (o : Options) (mode : GroupBy) (stage : Stage) (s : Spec) :
    (stage.run o mode s).modelValues = s.modelValues := by
  simp only [modelValues, Stage.run_eq, List.flatMap_map, Stage.extensions_onModel]

theorem parameterValues_postProcess (o : Options) (mode : GroupBy) (s : Spec) :
    (s.postProcess o mode).parameterValues ⊆ s.parameterValues := by
  rw [postProcess]
  generalize Stage.all = stages
  induction stages generalizing s with
  | nil => exact List.Subset.refl _
  | cons stage rest ih => exact List.Subset.trans (ih _) (parameterValues_run o mode stage s)

theorem modelValues_postProcess (o : Options) (mode : GroupBy) (s : Spec) :
    (s.postProcess o mode).modelValues = s.modelValues := by
  rw [postProcess]
  generalize Stage.all = stages
  induction stages generalizing s with
  | nil => rfl
  | cons stage rest ih => exact (ih _).trans (modelValues_run o mode stage s)

end Spec

/-! ### Filling in -/

namespace Shape

theorem fill_eq_ok {read out : List (String × Value)}
    {declared : List (String × Shape × Option Value)} :
    fill read declared = .ok out ↔
      List.Forall₂ (fun d m => m.1 = d.1 ∧ (read.lookup d.1).or d.2.2 = some m.2) declared out := by
  induction declared generalizing out with
  | nil => cases out <;> simp [fill]
  | cons d rest ih =>
    obtain ⟨name, shape, absent⟩ := d
    rw [fill, List.forall₂_cons_left_iff]
    cases (read.lookup name).or absent with
    | none => simp
    | some v =>
      simp only [Json.map_eq_ok, ih, Option.some.injEq]
      constructor
      · rintro ⟨ms, hms, rfl⟩
        exact ⟨(name, v), ms, ⟨rfl, rfl⟩, hms, rfl⟩
      · rintro ⟨m, ms, ⟨hname, hv⟩, hms, rfl⟩
        exact ⟨ms, hms, by rw [← hname, hv]⟩

/-- A name that is declared has a value when everything is filled in. -/
theorem member_of_fill {read out : List (String × Value)}
    {declared : List (String × Shape × Option Value)} (h : fill read declared = .ok out)
    {name : String} {d : String × Shape × Option Value}
    (hfirst : declared.find? (·.1 = name) = some d) :
    (read.lookup name).or d.2.2 = some ((Value.object out).member name) := by
  rw [Value.member]
  induction fill_eq_ok.1 h with
  | nil => cases hfirst
  | @cons e m rest ms hm _ ih =>
    obtain ⟨hname, hm⟩ := hm
    rw [List.find?_cons] at hfirst
    by_cases he : e.1 = name
    · obtain rfl : e = d := by simpa [he] using hfirst
      rw [← he, hm, List.lookup_cons, hname]
      simp
    · have hne : (name == m.1) = false := by simpa [hname] using Ne.symm he
      rw [List.lookup_cons, hne]
      exact ih (fill_eq_ok.2 ‹_›) (by simpa [he] using hfirst)

/-- A declared member is as it was read, or stands for its absence. -/
theorem absent_or_of_fill (P : Shape → Value → Prop) {read out : List (String × Value)}
    {declared : List (String × Shape × Option Value)} (h : fill read declared = .ok out)
    (hread : ∀ e ∈ read, ∃ shape, Shape.lookup declared e.1 = some shape ∧ P shape e.2)
    {name : String} {d : String × Shape × Option Value}
    (hfirst : declared.find? (·.1 = name) = some d) :
    d.2.2 = some ((Value.object out).member name) ∨ P d.2.1 ((Value.object out).member name) := by
  have hmember := member_of_fill h hfirst
  cases hfound : read.lookup name with
  | none => exact .inl (by simpa [hfound] using hmember)
  | some w =>
    obtain rfl : w = (Value.object out).member name := by simpa [hfound] using hmember
    obtain ⟨before, after, rfl, -⟩ := List.lookup_eq_some_iff.1 hfound
    obtain ⟨shape, hshape, hw⟩ := hread _ (List.mem_append_right _ List.mem_cons_self)
    rw [Shape.lookup, hfirst] at hshape
    obtain rfl := Option.some.inj hshape
    exact .inr hw

end Shape

/-! ### Reading -/

/-- What is known of the values that a reader of documents gives. `fits depth shape` holds of those
that it gives for a shape at a depth, and `free depth` of the free values inside. -/
structure Reading (fits : Nat → Shape → Value → Prop) (free : Nat → Value → Prop) : Prop where
  /-- A declared member is read for its shape, or stands for its absence. -/
  member {depth title declared name d v} : fits depth (.record title declared) v →
    declared.find? (·.1 = name) = some d →
    d.2.2 = some (v.member name) ∨ fits (depth - 1) d.2.1 (v.member name)
  item {depth item v} : fits depth (.list item) v → ∀ w ∈ v.toItems, fits (depth - 1) item w
  extension {depth v} : fits depth .extensions v → ∀ m ∈ v.toMembers, free (depth - 1) m.2

namespace Reading

variable {fits : Nat → Shape → Value → Prop} {free : Nat → Value → Prop}

theorem listMember (h : Reading fits free) {depth : Nat} {title : String}
    {declared : List (String × Shape × Option Value)} {name : String} {item : Shape} {v : Value}
    (hv : fits depth (.record title declared) v)
    (hfirst : declared.find? (·.1 = name) = some (Shape.listMember name item)) :
    ∀ w ∈ (v.member name).toItems, fits (depth - 2) item w := by
  rcases h.member hv hfirst with habsent | hread
  · rw [← Option.some.inj habsent]
    exact fun _ hw => absurd hw List.not_mem_nil
  · exact h.item hread

theorem extensionsMember (h : Reading fits free) {depth : Nat} {title : String}
    {declared : List (String × Shape × Option Value)} {v : Value}
    (hv : fits depth (.record title declared) v)
    (hfirst : declared.find? (·.1 = "vendor_extensions") = some Shape.extensionsMember) :
    ∀ w ∈ (Dictionary.ofList (v.member "vendor_extensions").toMembers).values,
      free (depth - 2) w := by
  rw [Dictionary.values]
  refine List.forall_mem_map.2 fun e he => ?_
  have hmem := Dictionary.mem_of_mem_ofList he
  rcases h.member hv hfirst with habsent | hread
  · rw [← Option.some.inj habsent] at hmem
    exact absurd hmem List.not_mem_nil
  · exact h.extension hread e hmem

theorem parameterValues (h : Reading fits free) {depth : Nat} {v : Value}
    (hv : fits depth Shape.spec v) :
    ∀ w ∈ (Spec.ofValue v).parameterValues, free (depth - 6) w := by
  intro w hw
  -- a list member and its items, and so the extensions and what they hold, are two levels each
  obtain ⟨_, hmem, hw⟩ := List.mem_flatMap.1 hw
  obtain ⟨o, ho, rfl⟩ := List.mem_map.1 hmem
  obtain ⟨_, hmem, hw⟩ := List.mem_flatMap.1 hw
  have hoperation : fits (depth - 2) Shape.operation o := h.listMember hv rfl o ho
  rcases List.mem_append.1 hmem with hmem | hmem
  all_goals obtain ⟨p, hp, rfl⟩ := List.mem_map.1 hmem
  · have hparameter : fits (depth - 4) Shape.parameter p := h.listMember hoperation rfl p hp
    exact h.extensionsMember hparameter rfl w hw
  · have hheader : fits (depth - 4) Shape.parameter p := h.listMember hoperation rfl p hp
    exact h.extensionsMember hheader rfl w hw

theorem modelValues (h : Reading fits free) {depth : Nat} {v : Value}
    (hv : fits depth Shape.spec v) : ∀ w ∈ (Spec.ofValue v).modelValues, free (depth - 4) w := by
  intro w hw
  obtain ⟨_, hmem, hw⟩ := List.mem_flatMap.1 hw
  obtain ⟨m, hm, rfl⟩ := List.mem_map.1 hmem
  have hmodel : fits (depth - 2) Shape.model m := h.listMember hv rfl m hm
  exact h.extensionsMember hmodel rfl w hw

end Reading

namespace Json

/-- What is read under a name was read for the shape that is declared there. -/
theorem fitMembers_mem {depth : Nat} {declared : List (String × Shape × Option Value)}
    {read out : List (String × Value)} {ms : List (Option String × Tree)}
    (h : fitMembers depth declared read ms = .ok out) {e : String × Value} (he : e ∈ out) :
    e ∈ read ∨ ∃ shape t, Shape.lookup declared e.1 = some shape ∧ fit depth shape t = .ok e.2 := by
  induction ms generalizing read with
  | nil =>
    rw [fitMembers, Except.ok.injEq] at h
    exact .inl (h ▸ he)
  | cons m ms ih =>
    obtain ⟨next, hm, hms⟩ := fitMembers_cons_eq_ok.1 h
    refine (ih hms).elim (fun he => ?_) .inr
    obtain ⟨name, -, ⟨-, -, rfl⟩ | ⟨shape, v, hshape, -, hv, rfl⟩⟩ := fitMember_eq_ok.1 hm
    · exact .inl he
    · refine (List.mem_append.1 he).imp_right fun he => ?_
      obtain rfl := List.mem_singleton.1 he
      exact ⟨shape, m.2, hshape, hv⟩

theorem fitPositions_member {depth total place : Nat} {title : String}
    {declared : List (String × Shape × Option Value)} {items : List Tree} {closed : Bool}
    {ms : List (String × Value)}
    (h : fitPositions depth title total place declared items closed = .ok ms) {name : String}
    {d : String × Shape × Option Value} (hfirst : declared.find? (·.1 = name) = some d) :
    d.2.2 = some ((Value.object ms).member name) ∨
      ∃ t, fit depth d.2.1 t = .ok ((Value.object ms).member name) := by
  induction items generalizing declared place ms with
  | nil =>
    rw [fitPositions, bind_eq_ok] at h
    obtain ⟨_, -, h⟩ := h
    cases hfill : Shape.fill [] declared with
    | error name => simp [hfill] at h
    | ok out =>
      obtain rfl : ms = out := by simpa [hfill, pure_eq_ok] using h
      exact .inl (Shape.member_of_fill hfill hfirst)
  | cons t rest ih =>
    cases declared with
    | nil => cases hfirst
    | cons e declared =>
      obtain ⟨other, shape, absent⟩ := e
      simp only [fitPositions, bind_eq_ok, pure_eq_ok] at h
      obtain ⟨v, hv, ws, hws, rfl⟩ := h
      rw [List.find?_cons] at hfirst
      by_cases hother : other = name
      · obtain rfl : (other, shape, absent) = d := by simpa [hother] using hfirst
        exact .inr ⟨t, by simpa [Value.member, hother] using hv⟩
      · have hne : (name == other) = false := beq_false_of_ne (Ne.symm hother)
        rw [Value.member, List.lookup_cons, hne]
        exact ih hws (by simpa [hother] using hfirst)

theorem fit_extensions {depth : Nat} {ms : List (Option String × Tree)} {stray : Option Tree}
    {v : Value} :
    fit depth .extensions (.object ms stray) = .ok v ↔ stray = none ∧
      ∃ vs, List.Forall₂ (fun m v => m.1 = some v.1 ∧ fitFree (depth - 1) m.2 = .ok v.2) ms vs ∧
        v = .object (Dictionary.ofList vs).entries := by
  simp only [fit, bind_closing_eq_ok, fitFreeMembers_eq_ok, Option.isNone_iff_eq_none]

/-- What JSON documents are read as. -/
theorem reading : Reading (fun depth shape v => ∃ t, fit depth shape t = .ok v)
    fun depth v => ∃ t, fitFree depth t = .ok v where
  member := by
    rintro depth title declared name d v ⟨t, h⟩ hfirst
    cases t with
    | object ms stray =>
      obtain ⟨-, read, out, hread, hfill, rfl⟩ := fit_record_object.1 h
      refine Shape.absent_or_of_fill (fun shape v => ∃ t, fit (depth - 1) shape t = .ok v) hfill
        (fun e he => ?_) hfirst
      obtain ⟨shape, t, hshape, ht⟩ := (fitMembers_mem hread he).resolve_left List.not_mem_nil
      exact ⟨shape, hshape, t, ht⟩
    | list items closed =>
      obtain ⟨ms, hms, rfl⟩ := fit_record_list.1 h
      exact fitPositions_member hms hfirst
    | _ => exact absurd h (refuse_ne_ok _ _ _)
  item := by
    rintro depth item v ⟨t, h⟩
    cases t with
    | list items closed =>
      obtain ⟨-, vs, hvs, rfl⟩ := fit_list.1 h
      intro w hw
      obtain ⟨t, -, ht⟩ := exists_of_forall₂ hvs hw
      exact ⟨t, ht⟩
    | _ => exact absurd h (refuse_ne_ok _ _ _)
  extension := by
    rintro depth v ⟨t, h⟩
    cases t with
    | object ms stray =>
      obtain ⟨-, vs, hvs, rfl⟩ := fit_extensions.1 h
      intro m hm
      obtain ⟨t, -, -, ht⟩ := exists_of_forall₂ hvs (Dictionary.mem_of_mem_ofList hm)
      exact ⟨t.2, ht⟩
    | _ => exact absurd h (refuse_ne_ok _ _ _)

end Json

namespace Yaml

section Nodes

variable {a : Anchors} {way : Way} {declared : List (String × Shape × Option Value)}

theorem Gives.fitDeclared {fit : Shape → Way → Node Nat → Fitting Value}
    {read out : List (String × Value)} {members : List (Node Nat × Node Nat)}
    (h : Gives (fitDeclared a way declared fit read members) out) {e : String × Value}
    (he : e ∈ out) : e ∈ read ∨ ∃ shape way n,
      Shape.lookup declared e.1 = some shape ∧ Gives (fit shape way n) e.2 := by
  induction members generalizing read with
  | nil => exact .inl (h.pure ▸ he)
  | cons m rest ih =>
    obtain ⟨k, v⟩ := m
    rw [Yaml.fitDeclared] at h
    obtain ⟨_, -, h⟩ := h.bind
    obtain ⟨key, -, h⟩ := h.bind
    split at h
    · exact ih h
    · next shape hshape =>
      split at h
      · exact absurd h not_gives_refuse
      obtain ⟨w, hw, h⟩ := h.bind
      refine (ih h).elim (fun he => ?_) .inr
      refine (List.mem_append.1 he).imp_right fun he => ?_
      obtain rfl := List.mem_singleton.1 he
      exact ⟨shape, _, v, hshape, hw⟩

theorem Gives.complete {read : List (String × Value)} {v : Value}
    (h : Gives (complete way declared read) v) :
    ∃ out, Shape.fill read declared = .ok out ∧ v = .object out := by
  rw [Yaml.complete] at h
  split at h
  · next out hfill => exact ⟨out, hfill, h.pure⟩
  · exact absurd h not_gives_refuse

/-- Inside a list or a mapping there is one level less. -/
theorem fit_eq (a : Anchors) (depth : Nat) : ∃ fit',
    fit a depth = fitNode a depth fit' ∧ ∀ f, fit' = some f → f = fit a (depth - 1) := by
  cases depth with
  | zero => exact ⟨none, rfl, fun _ hf => by cases hf⟩
  | succ depth => exact ⟨some (fit a depth), rfl, fun _ hf => (Option.some.inj hf).symm⟩

theorem Gives.record {depth : Nat} {title : String} {n : Node Nat} {v : Value}
    (h : Gives (fit a depth (.record title declared) way n) v) :
    ∃ read out, Shape.fill read declared = .ok out ∧ v = .object out ∧
      ∀ e ∈ read, ∃ shape way n,
        Shape.lookup declared e.1 = some shape ∧ Gives (fit a (depth - 1) shape way n) e.2 := by
  obtain ⟨fit', heq, hfit'⟩ := fit_eq a depth
  rw [heq, fitNode] at h
  obtain ⟨n, -, h⟩ := h.bind
  cases n with
  | scalar anchor tag text style =>
    dsimp only at h
    split at h
    · obtain ⟨out, hfill, rfl⟩ := h.complete
      exact ⟨[], out, hfill, rfl, fun _ he => absurd he List.not_mem_nil⟩
    · exact absurd h not_gives_refuse
  | mapping anchor tag members =>
    obtain ⟨f, hf, h⟩ := Gives.inside h
    obtain rfl := hfit' f hf
    obtain ⟨read, hread, h⟩ := h.bind
    obtain ⟨out, hfill, rfl⟩ := h.complete
    exact ⟨read, out, hfill, rfl, fun e he => (hread.fitDeclared he).resolve_left List.not_mem_nil⟩
  | _ => exact absurd h not_gives_refuse

theorem Gives.list {depth : Nat} {item : Shape} {n : Node Nat} {v : Value}
    (h : Gives (fit a depth (.list item) way n) v) :
    ∃ vs, v = .list vs ∧ ∀ w ∈ vs, ∃ way n, Gives (fit a (depth - 1) item way n) w := by
  obtain ⟨fit', heq, hfit'⟩ := fit_eq a depth
  rw [heq, fitNode] at h
  obtain ⟨n, -, h⟩ := h.bind
  cases n with
  | scalar anchor tag text style =>
    dsimp only at h
    split at h
    · exact ⟨[], h.pure, fun _ hw => absurd hw List.not_mem_nil⟩
    · exact absurd h not_gives_refuse
  | sequence anchor tag items =>
    obtain ⟨f, hf, h⟩ := Gives.inside h
    obtain rfl := hfit' f hf
    obtain ⟨vs, hvs, h⟩ := h.bind
    exact ⟨vs, h.pure, hvs.fitItems⟩
  | _ => exact absurd h not_gives_refuse

theorem Gives.extensions {depth : Nat} {n : Node Nat} {v : Value}
    (h : Gives (fit a depth .extensions way n) v) :
    ∃ ms, v = .object ms ∧ ∀ m ∈ ms, m.2.Canonical := by
  obtain ⟨fit', heq, -⟩ := fit_eq a depth
  rw [heq, fitNode] at h
  obtain ⟨n, -, h⟩ := h.bind
  cases n with
  | scalar anchor tag text style =>
    dsimp only at h
    split at h
    · exact ⟨[], h.pure, fun _ hm => absurd hm List.not_mem_nil⟩
    · exact absurd h not_gives_refuse
  | mapping anchor tag members =>
    obtain ⟨f, -, h⟩ := Gives.inside h
    obtain ⟨ms, hms, h⟩ := h.bind
    refine ⟨_, h.pure, fun m hm => ?_⟩
    obtain ⟨way, n, hn⟩ := hms.fitMembers m (Dictionary.mem_of_mem_ofList hm)
    exact hn.canonical
  | _ => exact absurd h not_gives_refuse

end Nodes

/-- What YAML documents are read as. -/
theorem reading : Reading (fun depth shape v => ∃ a way n, Gives (fit a depth shape way n) v)
    fun _ v => v.Canonical where
  member := by
    rintro depth title declared name d v ⟨a, way, n, h⟩ hfirst
    obtain ⟨read, out, hfill, rfl, hread⟩ := h.record
    refine Shape.absent_or_of_fill
      (fun shape v => ∃ a way n, Gives (fit a (depth - 1) shape way n) v) hfill
      (fun e he => ?_) hfirst
    obtain ⟨shape, way, n, hshape, hn⟩ := hread e he
    exact ⟨shape, hshape, a, way, n, hn⟩
  item := by
    rintro depth item v ⟨a, way, n, h⟩ w hw
    obtain ⟨vs, rfl, hvs⟩ := h.list
    exact ⟨a, hvs w hw⟩
  extension := by
    rintro depth v ⟨a, way, n, h⟩
    obtain ⟨ms, rfl, hms⟩ := h.extensions
    exact hms

end Yaml

end SpringScaffold
