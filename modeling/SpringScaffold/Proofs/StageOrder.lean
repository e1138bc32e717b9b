import SpringScaffold.Proofs.Pointwise

/-! Which orders of the stages give the same result. Two stages commute on every description unless
one of them gathers the imports of the operations and the other takes the implicit headers away, so
every order that runs these two in turn agrees with the order that is in use. -/

namespace SpringScaffold

section Fold

variable {α β : Type} {f : β → α → β}

/-- A step moves in front of steps that it commutes with. -/
theorem foldl_move {a : α} {pre : List α} (h : ∀ b ∈ pre, ∀ x, f (f x a) b = f (f x b) a) (x : β) :
    pre.foldl f (f x a) = f (pre.foldl f x) a := by
  induction pre generalizing x with
  | nil => rfl
  | cons b pre ih =>
    rw [List.foldl_cons, List.foldl_cons, h b List.mem_cons_self]
    exact ih (fun c hc => h c (List.mem_cons_of_mem _ hc)) (f x b)

/-- Two orders of the same steps end alike if steps whose order differs commute. -/
theorem foldl_eq_of_perm {l₁ l₂ : List α} (hperm : l₁.Perm l₂)
    (hcomm : ∀ a b, [a, b].Sublist l₁ → [b, a].Sublist l₂ → ∀ x, f (f x a) b = f (f x b) a)
    (x : β) :
    l₁.foldl f x = l₂.foldl f x := by
  induction l₁ generalizing l₂ x with
  | nil => rw [hperm.nil_eq]
  | cons a l₁ ih =>
    obtain ⟨pre, post, rfl⟩ := List.append_of_mem (hperm.subset List.mem_cons_self)
    have hrest : l₁.Perm (pre ++ post) := (hperm.trans List.perm_middle).cons_inv
    have hpre : ∀ b ∈ pre, ∀ x, f (f x a) b = f (f x b) a := by
      intro b hb
      apply hcomm
      · exact (List.singleton_sublist.2 (hrest.mem_iff.2 (List.mem_append_left _ hb))).cons_cons a
      · exact (List.singleton_sublist.2 hb).append (List.singleton_sublist.2 List.mem_cons_self)
    have hdrop : (pre ++ post).Sublist (pre ++ a :: post) :=
      (List.sublist_cons_self a post).append_left pre
    calc
      (a :: l₁).foldl f x = (pre ++ post).foldl f (f x a) :=
        ih hrest (fun b c hb hc => hcomm b c (hb.cons a) (hc.trans hdrop)) (f x a)
      _ = (pre ++ a :: post).foldl f x := by
        rw [List.foldl_append, List.foldl_append, foldl_move hpre, List.foldl_cons]

end Fold

theorem not_sublist_swap {α : Type} {l : List α} (hl : l.Nodup) {a b : α}
    (h : [a, b].Sublist l) : ¬ [b, a].Sublist l := by
  induction l with
  | nil => simp at h
  | cons c l ih =>
    rw [List.nodup_cons] at hl
    intro h'
    have hmem : ∀ {d e : α}, [d, e].Sublist l → e ∈ l := fun hs => hs.subset (by simp)
    rcases List.sublist_cons_iff.1 h with htail | ⟨r, hr, htail⟩
    · rcases List.sublist_cons_iff.1 h' with htail' | ⟨r', hr', -⟩
      · exact ih hl.2 htail htail'
      · obtain ⟨rfl, -⟩ := List.cons.inj hr'
        exact hl.1 (hmem htail)
    · obtain ⟨rfl, rfl⟩ := List.cons.inj hr
      rcases List.sublist_cons_iff.1 h' with htail' | ⟨r', hr', -⟩
      · exact hl.1 (hmem htail')
      · obtain ⟨rfl, -⟩ := List.cons.inj hr'
        exact hl.1 (List.singleton_sublist.1 htail)

namespace Stage

/-- Not the two stages of which one reads the parameters that the other moves away. -/
def Independent (a b : Stage) : Prop :=
  ¬ (a = .operationImports ∧ b = .operations) ∧ ¬ (a = .operations ∧ b = .operationImports)

theorem onOperation_comm {f : String → String} (hf : Signature.Suffixing f)
    (hvoid : f Signature.void = Signature.void) {a b : Stage} (h : a.Independent b)
    (op : Operation) :
    b.onOperation (Signature.substitute f) (a.onOperation (Signature.substitute f) op) =
      a.onOperation (Signature.substitute f) (b.onOperation (Signature.substitute f) op) := by
  cases a with
  | modelProperties | groups => cases b <;> rfl
  | modelNames =>
    cases b with
    | operationImports => exact op.addImports_mapTypes _
    | operations => exact op.normalize_mapTypes hf hvoid
    | modelNames | modelProperties | groups => rfl
  | operationImports =>
    cases b with
    | modelNames => exact (op.addImports_mapTypes _).symm
    | operations => exact absurd ⟨rfl, rfl⟩ h.1
    | operationImports | modelProperties | groups => rfl
  | operations =>
    cases b with
    | modelNames => exact (op.normalize_mapTypes hf hvoid).symm
    | operationImports => exact absurd ⟨rfl, rfl⟩ h.2
    | operations | modelProperties | groups => rfl

theorem onModel_comm (o : Options) (f : String → String) (a b : Stage) (m : Model) :
    b.onModel o f (a.onModel o f m) = a.onModel o f (b.onModel o f m) := by
  cases a with
  | operationImports | operations | groups => cases b <;> rfl
  | modelNames =>
    cases b with
    | modelProperties => exact m.annotate_named o o.dto f
    | modelNames | operationImports | operations | groups => rfl
  | modelProperties =>
    cases b with
    | modelNames => exact (m.annotate_named o o.dto f).symm
    | modelProperties | operationImports | operations | groups => rfl

end Stage

namespace Spec

/-- Every order of the stages that gathers the imports of the operations before their headers go
has the result of the order in use. A model named like the void type would be mistaken for an absent
type if the operations came before the names. -/
theorem runStages_eq_postProcess (o : Options) (mode : GroupBy) (s : Spec) (order : List Stage)
    (hperm : order.Perm Stage.all)
    (hbefore : [Stage.operationImports, Stage.operations].Sublist order)
    (hvoid : o.dto = true → ∀ m ∈ s.models, m.name ≠ Signature.void) :
    s.runStages o mode order = s.postProcess o mode := by
  have hnodup : order.Nodup := hperm.nodup_iff.2 (by decide)
  have hindependent : ∀ a b : Stage, [a, b].Sublist order → [b, a].Sublist Stage.all →
      a.Independent b := by
    intro a b hab hba
    constructor
    · rintro ⟨rfl, rfl⟩
      exact absurd hba (by decide)
    · rintro ⟨rfl, rfl⟩
      exact not_sublist_swap hnodup hbefore hab
  have hoperations : ∀ op : Operation,
      order.foldl (fun op stage => stage.onOperation (s.retype o) op) op =
        Stage.all.foldl (fun op stage => stage.onOperation (s.retype o) op) op := by
    refine foldl_eq_of_perm hperm ?_
    intro a b hab hba op
    exact Stage.onOperation_comm (s.suffixing_reference o.dto) (reference_of_forall_ne hvoid)
      (hindependent a b hab hba) op
  have hmodels : ∀ m : Model,
      order.foldl (fun m stage => stage.onModel o (s.retype o) m) m =
        Stage.all.foldl (fun m stage => stage.onModel o (s.retype o) m) m := by
    refine foldl_eq_of_perm hperm ?_
    intro a b _ _ m
    exact Stage.onModel_comm o (s.retype o) a b m
  have hgroups : Stage.groups ∈ order := hperm.mem_iff.2 (by decide)
  rw [postProcess, runStages_eq, runStages_eq, if_pos hgroups,
    if_pos (show Stage.groups ∈ Stage.all by decide)]
  simp only [hoperations, hmodels]

/-- Orders that are listed since a moment in a hidden header, next to a model that is named like a
container. -/
def orderList : Spec where
  info := ⟨"Shop", none, "1.0"⟩
  operations := [{
    name := ⟨"listOrders"⟩
    method := .get
    path := "/orders"
    summary := none
    description := none
    tags := [⟨"order", some "Orders"⟩]
    parameters := [⟨⟨"X-Since"⟩, .header, "Order", false, none, false, true,
      Dictionary.empty.insert Parameter.implicitHeaderMark (.bool true)⟩]
    implicitHeaders := []
    responses := [⟨"0", none, some "List<Order>", .none⟩, ⟨"204", none, none, .none⟩]
    returnType := some "Map<String, List<Order>>"
    returnContainer := .none
    imports := .empty
    deprecated := false }]
  models := ["Order", "List"].map fun name =>
    ⟨name, "", none, [], false, [], false, .empty, .empty⟩
  groups := []

theorem runStages_orderList :
    let o : Options := { Options.default with dto := true }
    let order : List Stage :=
      [.groups, .modelProperties, .operationImports, .operations, .modelNames]
    (order.Perm Stage.all ∧ [Stage.operationImports, Stage.operations].Sublist order ∧
      ∀ m ∈ orderList.models, m.name ≠ Signature.void) ∧
    orderList.runStages o .tag order = orderList.postProcess o .tag ∧
    (orderList.postProcess o .tag).operations.map (·.returnType) = [some "ListDto<OrderDto>"] :=
  ⟨⟨by decide, by decide, by decide⟩,
    runStages_eq_postProcess _ _ _ _ (by decide) (by decide) fun _ => by decide, by decide +kernel⟩

end Spec

end SpringScaffold
