/-! Dictionaries in the order in which their keys first came. A key that comes again replaces the
value and keeps its place. -/

namespace SpringScaffold

structure Dictionary (α : Type) where
  entries : List (String × α)
  nodup : (entries.map (·.1)).Nodup
  deriving DecidableEq, Repr

namespace Dictionary

variable {α : Type}

def empty : Dictionary α := ⟨[], List.nodup_nil⟩

instance : Inhabited (Dictionary α) := ⟨empty⟩

/-- Replaces the value of a key that is there, or adds the key at the end. -/
def put (key : String) (value : α) : List (String × α) → List (String × α)
  | [] => [(key, value)]
  | (k, v) :: rest => if k = key then (k, value) :: rest else (k, v) :: put key value rest

theorem keys_put (key : String) (value : α) (l : List (String × α)) :
    (put key value l).map (·.1) =
      if key ∈ l.map (·.1) then l.map (·.1) else l.map (·.1) ++ [key] := by
  induction l with
  | nil => simp [put]
  | cons e rest ih =>
    obtain ⟨k, v⟩ := e
    by_cases h : k = key
    · simp [put, h]
    · have h' : ¬key = k := fun e => h e.symm
      simp only [put, h, if_false, List.map_cons, ih, List.mem_cons, h', false_or]
      split <;> simp

theorem nodup_put (key : String) (value : α) {l : List (String × α)}
    (h : (l.map (·.1)).Nodup) : ((put key value l).map (·.1)).Nodup := by
  rw [keys_put]
  split
  · exact h
  · next hk =>
    rw [List.nodup_append]
    refine ⟨h, by simp, ?_⟩
    intro a ha b hb
    simp only [List.mem_singleton] at hb
    subst hb
    exact fun e => hk (e ▸ ha)

def insert (d : Dictionary α) (key : String) (value : α) : Dictionary α :=
  ⟨put key value d.entries, nodup_put key value d.nodup⟩

theorem lookup_put (key other : String) (value : α) (l : List (String × α)) :
    (put key value l).lookup other = if other = key then some value else l.lookup other := by
  induction l with
  | nil => by_cases h : other = key <;> simp [put, List.lookup_cons, h, beq_false_of_ne]
  | cons e rest ih =>
    obtain ⟨k, v⟩ := e
    by_cases h : k = key
    · subst h
      by_cases ho : other = k <;> simp [put, List.lookup_cons, ho, beq_false_of_ne]
    · by_cases ho : other = k
      · subst ho
        simp [put, h]
      · simp [put, h, List.lookup_cons, ih, beq_false_of_ne ho]

def ofList (l : List (String × α)) : Dictionary α :=
  l.foldl (fun d (k, v) => d.insert k v) empty

def find? (d : Dictionary α) (key : String) : Option α := d.entries.lookup key

theorem find?_insert (d : Dictionary α) (key other : String) (value : α) :
    (d.insert key value).find? other = if other = key then some value else d.find? other :=
  lookup_put key other value d.entries

def contains (d : Dictionary α) (key : String) : Bool := (d.find? key).isSome

end Dictionary

end SpringScaffold
