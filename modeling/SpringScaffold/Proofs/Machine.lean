/-! Machines that read symbols one by one and give out numbers as they go. What holds of one step
holds of a run: `Machine.run_cost` for what a run gives out at most, `Machine.exists_of_mem_run` for
what no run loses, and `Machine.Reads` for runs put together from parts. -/

namespace SpringScaffold

/-- The values of all items together. -/
def total {Item : Type} (value : Item → Nat) : List Item → Nat
  | [] => 0
  | a :: as => value a + total value as

theorem total_append {Item : Type} (value : Item → Nat) (as bs : List Item) :
    total value (as ++ bs) = total value as + total value bs := by
  induction as with
  | nil => exact (Nat.zero_add _).symm
  | cons a as ih => rw [List.cons_append, total, total, ih, Nat.add_assoc]

theorem total_const {Item : Type} (n : Nat) (as : List Item) :
    total (fun _ => n) as = n * as.length := by
  induction as with
  | nil => rfl
  | cons a as ih => rw [total, ih, List.length_cons, Nat.mul_succ, Nat.add_comm]

/-- A symbol may be refused, and so may the end. -/
structure Machine (State Symbol : Type) where
  step : State → Symbol → Option (List Nat × State)
  finish : State → Option (List Nat)

namespace Machine

variable {State Symbol : Type} (m : Machine State Symbol)

def run : State → List Symbol → Option (List Nat)
  | s, [] => m.finish s
  | s, a :: as => (m.step s a).bind fun (out, next) => (run next as).map (out ++ ·)

variable {m}

theorem exists_step_of_run_cons {s : State} {a : Symbol} {as : List Symbol} {out : List Nat}
    (h : m.run s (a :: as) = some out) :
    ∃ first next rest, m.step s a = some (first, next) ∧ m.run next as = some rest ∧
      first ++ rest = out := by
  rw [run, Option.bind_eq_some_iff] at h
  obtain ⟨⟨first, next⟩, hstep, h⟩ := h
  obtain ⟨rest, hrest, happend⟩ := Option.map_eq_some_iff.1 h
  exact ⟨first, next, rest, hstep, hrest, happend⟩

/-- What is given out costs no more than what is read, and a state owes what is still to come. -/
theorem run_cost (size : Nat → Nat) (cost : Symbol → Nat) (owed : State → Nat) (k : Nat)
    (hstep : ∀ s a out next, m.step s a = some (out, next) →
      total size out + owed next ≤ owed s + cost a)
    (hfinish : ∀ s out, m.finish s = some out → total size out + k ≤ owed s)
    {s : State} {as : List Symbol} {out : List Nat} (h : m.run s as = some out) :
    total size out + k ≤ owed s + total cost as := by
  induction as generalizing s out with
  | nil => exact hfinish s out h
  | cons a as ih =>
    obtain ⟨first, next, rest, hfirst, hrest, rfl⟩ := exists_step_of_run_cons h
    have hhead := hstep s a first next hfirst
    have htail := ih hrest
    rw [total_append, total]
    omega

/-- A symbol that always shows in what is given out. -/
theorem exists_of_mem_run {P : Nat → Prop} {a : Symbol}
    (hstep : ∀ s out next, m.step s a = some (out, next) → ∃ u ∈ out, P u)
    {s : State} {as : List Symbol} {out : List Nat} (ha : a ∈ as) (h : m.run s as = some out) :
    ∃ u ∈ out, P u := by
  induction as generalizing s out with
  | nil => cases ha
  | cons b as ih =>
    obtain ⟨first, next, rest, hfirst, hrest, rfl⟩ := exists_step_of_run_cons h
    rcases List.mem_cons.1 ha with rfl | ha
    · obtain ⟨u, hu, hp⟩ := hstep s first next hfirst
      exact ⟨u, List.mem_append_left _ hu, hp⟩
    · obtain ⟨u, hu, hp⟩ := ih ha hrest
      exact ⟨u, List.mem_append_right _ hu, hp⟩

/-- Reading the symbols leads from one state to the other. -/
inductive Reads (m : Machine State Symbol) : State → List Symbol → List Nat → State → Prop where
  | nil (s : State) : Reads m s [] [] s
  | cons {s mid next : State} {a : Symbol} {as : List Symbol} {out more : List Nat} :
    m.step s a = some (out, mid) → Reads m mid as more next → Reads m s (a :: as) (out ++ more) next

namespace Reads

theorem single {s next : State} {a : Symbol} {out : List Nat}
    (h : m.step s a = some (out, next)) : m.Reads s [a] out next := by
  have hreads := cons h (nil next)
  rwa [List.append_nil] at hreads

theorem append {s mid next : State} {as bs : List Symbol} {out more : List Nat}
    (h : m.Reads s as out mid) (hrest : m.Reads mid bs more next) :
    m.Reads s (as ++ bs) (out ++ more) next := by
  induction h with
  | nil => exact hrest
  | cons hstep _ ih =>
    rw [List.cons_append, List.append_assoc]
    exact .cons hstep (ih hrest)

theorem run_eq {s next : State} {as : List Symbol} {out last : List Nat}
    (h : m.Reads s as out next) (hfinish : m.finish next = some last) :
    m.run s as = some (out ++ last) := by
  induction h with
  | nil => exact hfinish
  | cons hstep _ ih =>
    rw [run, hstep, Option.bind_some]
    simp only [ih hfinish, Option.map_some, List.append_assoc]

end Reads

end Machine

end SpringScaffold
