/-! Import identifiers without repetition, in the order in which they were first added. -/

namespace SpringScaffold

structure ImportSet where
  ids : List String
  nodup : ids.Nodup
  deriving DecidableEq, Repr

namespace ImportSet

def empty : ImportSet := ⟨[], List.nodup_nil⟩

instance : Inhabited ImportSet := ⟨empty⟩

instance : Membership String ImportSet := ⟨fun s id => id ∈ s.ids⟩

instance (s : ImportSet) (id : String) : Decidable (id ∈ s) :=
  inferInstanceAs (Decidable (id ∈ s.ids))

theorem mem_def {s : ImportSet} {id : String} : id ∈ s ↔ id ∈ s.ids := Iff.rfl

def contains (s : ImportSet) (id : String) : Bool := decide (id ∈ s)

def size (s : ImportSet) : Nat := s.ids.length

def isEmpty (s : ImportSet) : Bool := s.ids.isEmpty

/-- Adds at the end what is not there yet. -/
def insert (s : ImportSet) (id : String) : ImportSet :=
  if h : id ∈ s.ids then s
  else ⟨s.ids ++ [id], by
    rw [List.nodup_append]
    refine ⟨s.nodup, by simp, ?_⟩
    intro a ha b hb
    simp only [List.mem_singleton] at hb
    subst hb
    exact fun e => h (e ▸ ha)⟩

def insertAll (s : ImportSet) (ids : List String) : ImportSet := ids.foldl insert s

def ofList (ids : List String) : ImportSet := empty.insertAll ids

theorem ids_insert (s : ImportSet) (id : String) :
    (s.insert id).ids = if id ∈ s then s.ids else s.ids ++ [id] := by
  by_cases h : id ∈ s.ids <;> simp [insert, mem_def, h]

end ImportSet

end SpringScaffold
