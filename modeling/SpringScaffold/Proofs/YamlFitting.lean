import SpringScaffold.Proofs.FreeValues
import SpringScaffold.Yaml.Document

/-! What a YAML node that fits a shape gives: records whose members fit or are defaults, lists whose
items fit, and free values that are canonical. -/

namespace SpringScaffold.Yaml

/-- The reading gives this value after some number of aliases. -/
def Gives {α : Type} (x : Fitting α) (a : α) : Prop := ∃ k k', x.run k = .ok (a, k')

section Gives

variable {α β : Type}

theorem Gives.bind {x : Fitting α} {f : α → Fitting β} {b : β} (h : Gives (x >>= f) b) :
    ∃ a, Gives x a ∧ Gives (f a) b := by
  obtain ⟨k, k', h⟩ := h
  rw [StateT.run_bind, Json.bind_eq_ok] at h
  obtain ⟨⟨a, k₁⟩, hx, hf⟩ := h
  exact ⟨a, ⟨k, k₁, hx⟩, k₁, k', hf⟩

theorem Gives.pure {a b : α} (h : Gives (pure a) b) : b = a := by
  obtain ⟨k, k', h⟩ := h
  rw [StateT.run_pure, Json.pure_eq_ok] at h
  exact congrArg Prod.fst h

theorem not_gives_refuse {way : Way} {m : Mismatch} {a : α} : ¬Gives (refuse way m) a := by
  rintro ⟨k, k', h⟩
  cases h

theorem Gives.inside {fit : Option α} {f : α → Fitting β} {b : β} (h : Gives (inside fit f) b) :
    ∃ fit', fit = some fit' ∧ Gives (f fit') b := by
  cases fit with
  | none => exact absurd h not_gives_refuse
  | some fit' => exact ⟨fit', rfl, h⟩

theorem Gives.mapM {f : α → Fitting β} {as : List α} {bs : List β} (h : Gives (as.mapM f) bs) :
    ∀ b ∈ bs, ∃ a ∈ as, Gives (f a) b := by
  induction as generalizing bs with
  | nil =>
    obtain rfl := Gives.pure h
    exact fun _ hb => absurd hb List.not_mem_nil
  | cons a as ih =>
    rw [List.mapM_cons] at h
    obtain ⟨b, hb, h⟩ := h.bind
    obtain ⟨bs, hbs, h⟩ := h.bind
    obtain rfl := Gives.pure h
    refine List.forall_mem_cons.2 ⟨⟨a, List.mem_cons_self, hb⟩, fun c hc => ?_⟩
    obtain ⟨a', ha', hc⟩ := ih hbs c hc
    exact ⟨a', List.mem_cons_of_mem _ ha', hc⟩

theorem Gives.fitItems {way : Way} {fit : Way → Node Nat → Fitting α} {items : List (Node Nat)}
    {vs : List α} (h : Gives (fitItems way fit items) vs) :
    ∀ v ∈ vs, ∃ way n, Gives (fit way n) v := by
  intro v hv
  obtain ⟨⟨n, i⟩, -, hv⟩ := Gives.mapM h v hv
  exact ⟨_, n, hv⟩

theorem Gives.fitMembers {a : Anchors} {way : Way} {wanted later : String}
    {fit : Way → Node Nat → Fitting Value} {members : List (Node Nat × Node Nat)}
    {ms : List (String × Value)} (h : Gives (fitMembers a way wanted later fit members) ms) :
    ∀ m ∈ ms, ∃ way n, Gives (fit way n) m.2 := by
  induction members generalizing wanted ms with
  | nil =>
    obtain rfl := Gives.pure h
    exact fun _ hm => absurd hm List.not_mem_nil
  | cons m rest ih =>
    obtain ⟨k, v⟩ := m
    rw [Yaml.fitMembers] at h
    obtain ⟨_, -, h⟩ := h.bind
    obtain ⟨key, -, h⟩ := h.bind
    obtain ⟨w, hw, h⟩ := h.bind
    obtain ⟨ws, hws, h⟩ := h.bind
    obtain rfl := Gives.pure h
    exact List.forall_mem_cons.2 ⟨⟨_, v, hw⟩, ih hws⟩

end Gives

/-! ### Free values -/

theorem isLong_of_sized? {i j : Int} (h : sized? i = some (.integer j)) : Json.IsLong j := by
  rw [sized?] at h
  split at h
  · next hlong =>
    obtain rfl : i = j := by simpa using h
    exact hlong
  · split at h <;> simp at h

theorem isLong_of_integer? {s : String} {i : Int} (h : integer? s = some (.integer i)) :
    Json.IsLong i := by
  rw [integer?] at h
  split at h
  all_goals
    obtain ⟨j, -, hj⟩ := Option.bind_eq_some_iff.1 h
    exact isLong_of_sized? hj

theorem float?_ne_integer {s : String} {i : Int} : float? s ≠ some (.integer i) := by
  rw [float?]
  split <;> (repeat' split) <;> simp

theorem isLong_of_plainMeaning {s : String} {i : Int} (h : plainMeaning s = .integer i) :
    Json.IsLong i := by
  rw [plainMeaning] at h
  split at h
  · cases h
  split at h
  · cases h
  split at h
  · next hread => exact isLong_of_integer? (h ▸ hread)
  split at h
  · cases h
  · cases hread : float? s with
    | none => simp [hread] at h
    | some found =>
      obtain rfl : found = .integer i := by simpa [hread] using h
      exact absurd hread float?_ne_integer

theorem isLong_of_denote {tag : Option Tag} {text : String} {style : ScalarStyle} {i : Int}
    (h : denote tag text style = .ok (.integer i)) : Json.IsLong i := by
  rw [denote] at h
  split at h
  · cases hread : bool? text <;> simp [hread] at h
  split at h
  · cases hread : integer? text with
    | none => simp [hread] at h
    | some found =>
      obtain rfl : found = .integer i := by simpa [hread] using h
      exact isLong_of_integer? hread
  split at h
  · cases hread : float? text with
    | none => simp [hread] at h
    | some found =>
      obtain rfl : found = .integer i := by simpa [hread] using h
      exact absurd hread float?_ne_integer
  split at h
  · split at h <;> simp at h
  split at h
  · exact isLong_of_plainMeaning (by simpa using h)
  · simp at h

theorem Gives.canonical_node {a : Anchors} {fit : Option (Way → Node Nat → Fitting Value)}
    (hfit : ∀ f, fit = some f → ∀ way n v, Gives (f way n) v → v.Canonical) {way : Way}
    {n : Node Nat} {v : Value} (h : Gives (fitFreeNode a fit way n) v) : v.Canonical := by
  rw [fitFreeNode] at h
  obtain ⟨n, -, h⟩ := h.bind
  cases n with
  | scalar anchor tag text style =>
    dsimp only at h
    split at h
    · exact absurd h not_gives_refuse
    split at h
    · exact absurd h not_gives_refuse
    · exact h.pure ▸ .bool _
    · next hi => exact h.pure ▸ .integer (isLong_of_denote hi)
    · exact h.pure ▸ .float _
    · exact h.pure ▸ .text _
    · exact absurd h not_gives_refuse
    · exact h.pure ▸ .null
  | sequence anchor tag items =>
    dsimp only at h
    split at h
    · exact absurd h not_gives_refuse
    obtain ⟨f, hf, h⟩ := h.inside
    obtain ⟨vs, hvs, h⟩ := h.bind
    refine h.pure ▸ .list fun v hv => ?_
    obtain ⟨way, n, hread⟩ := hvs.fitItems v hv
    exact hfit f hf way n v hread
  | mapping anchor tag members =>
    dsimp only at h
    split at h
    · exact absurd h not_gives_refuse
    obtain ⟨f, hf, h⟩ := h.inside
    obtain ⟨ms, hms, h⟩ := h.bind
    refine h.pure ▸ .sorted fun m hm => ?_
    obtain ⟨way, n, hread⟩ := hms.fitMembers m hm
    exact hfit f hf way n m.2 hread
  | _ => exact h.pure ▸ .null

/-- What is read is canonical. -/
theorem Gives.canonical {a : Anchors} {depth : Nat} {way : Way} {n : Node Nat} {v : Value}
    (h : Gives (fitFree a depth way n) v) : v.Canonical := by
  induction depth generalizing way n v with
  | zero => exact Gives.canonical_node (fun f hf => by cases hf) h
  | succ depth ih =>
    refine Gives.canonical_node (fun f hf way n v hv => ?_) h
    obtain rfl := Option.some.inj hf
    exact ih hv

end SpringScaffold.Yaml
