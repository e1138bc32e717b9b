/-! Cutting a text into maximal runs of one kind of character and the single characters between
them. Nothing is lost: the pieces concatenate to the text. -/

namespace SpringScaffold.Text

inductive Piece where
  | run (cs : List Char)
  | other (c : Char)
  deriving Repr, DecidableEq

def Piece.toList : Piece → List Char
  | .run cs => cs
  | .other c => [c]

def Piece.run? : Piece → Option (List Char)
  | .run cs => some cs
  | .other _ => none

def cut (keep : Char → Bool) : List Char → List Piece
  | [] => []
  | c :: rest =>
    if keep c then
      match cut keep rest with
      | .run cs :: pieces => .run (c :: cs) :: pieces
      | pieces => .run [c] :: pieces
    else .other c :: cut keep rest

def runs (keep : Char → Bool) (cs : List Char) : List (List Char) :=
  (cut keep cs).filterMap Piece.run?

theorem flatten_cut (keep : Char → Bool) (cs : List Char) :
    ((cut keep cs).map Piece.toList).flatten = cs := by
  induction cs with
  | nil => rfl
  | cons c rest ih =>
    unfold cut
    split
    · split
      · next heq => rw [heq] at ih; simpa [Piece.toList] using ih
      · simpa [Piece.toList] using ih
    · simpa [Piece.toList] using ih

/-- The text before and after the first `mark`. -/
def splitAtFirst (mark : Char) : List Char → Option (List Char × List Char)
  | [] => none
  | c :: rest =>
    if c = mark then some ([], rest)
    else (splitAtFirst mark rest).map fun (before, after) => (c :: before, after)

theorem splitAtFirst_append {mark : Char} {before : List Char} (after : List Char)
    (h : mark ∉ before) : splitAtFirst mark (before ++ mark :: after) = some (before, after) := by
  induction before with
  | nil => simp [splitAtFirst]
  | cons b before ih =>
    have hb : b ≠ mark := fun e => h (e ▸ List.mem_cons_self)
    simp [splitAtFirst, hb, ih fun hm => h (List.mem_cons_of_mem _ hm)]

theorem eq_append_of_splitAtFirst {mark : Char} {cs before after : List Char}
    (h : splitAtFirst mark cs = some (before, after)) :
    cs = before ++ mark :: after ∧ mark ∉ before := by
  induction cs generalizing before with
  | nil => simp [splitAtFirst] at h
  | cons c rest ih =>
    by_cases hc : c = mark
    · simp only [splitAtFirst, hc, if_true, Option.some.injEq, Prod.mk.injEq] at h
      simp [hc, ← h.1, ← h.2]
    · simp only [splitAtFirst, hc, if_false, Option.map_eq_some_iff] at h
      obtain ⟨⟨b, a⟩, hr, he⟩ := h
      simp only [Prod.mk.injEq] at he
      obtain ⟨rfl, rfl⟩ := he
      have ⟨e, hm⟩ := ih hr
      refine ⟨by rw [e]; rfl, ?_⟩
      rw [List.mem_cons]
      exact fun hor => hor.elim (fun e => hc e.symm) hm

/-- The text before and after the last `mark`. -/
def splitAtLast (mark : Char) (cs : List Char) : Option (List Char × List Char) :=
  (splitAtFirst mark cs.reverse).map fun (after, before) => (before.reverse, after.reverse)

/-- The parts between the marks, one more than there are marks. -/
def splitWhere (isMark : Char → Bool) : List Char → List (List Char)
  | [] => [[]]
  | c :: rest =>
    if isMark c then [] :: splitWhere isMark rest
    else match splitWhere isMark rest with
      | part :: parts => (c :: part) :: parts
      | [] => [[c]]

/-- The pieces between the separators, one more than there are separators. An empty separator stands
before, between and after all characters. -/
def splitOn (separator : List Char) (cs : List Char) : List (List Char) :=
  match separator with
  | [] => [] :: cs.map ([·]) ++ [[]]
  | _ :: _ => go separator cs.length [] cs
where
  go (separator : List Char) : Nat → List Char → List Char → List (List Char)
    | 0, piece, _ => [piece.reverse]
    | _ + 1, piece, [] => [piece.reverse]
    | fuel + 1, piece, c :: rest =>
      if separator.isPrefixOf (c :: rest) then
        piece.reverse :: go separator fuel [] ((c :: rest).drop separator.length)
      else go separator fuel (c :: piece) rest

end SpringScaffold.Text
