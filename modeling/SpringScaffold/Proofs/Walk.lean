import SpringScaffold.Proofs.Places
import SpringScaffold.Proofs.Steps

/-! Where a path leads in a file tree. Of the tree only its directories matter, so a path leads to
the same place for as long as no directory is lost. -/

namespace SpringScaffold.FileTree

/-- No directory is lost from one tree to the other. -/
def KeepsDirectories (before after : FileTree) : Prop :=
  ∀ q, before.node? q = some .directory → after.node? q = some .directory

namespace KeepsDirectories

theorem refl (t : FileTree) : KeepsDirectories t t := fun _ h => h

theorem trans {a b c : FileTree} (h : KeepsDirectories a b) (h' : KeepsDirectories b c) :
    KeepsDirectories a c := fun q hq => h' q (h q hq)

end KeepsDirectories

/-! ### Walking down -/

theorem enter_append (t : FileTree) (place ps qs : List String) :
    t.enter place (ps ++ qs) = (t.enter place ps).bind fun r => t.enter r qs := by
  induction ps generalizing place with
  | nil => rfl
  | cons p ps ih =>
    rw [List.cons_append, enter, enter]
    split
    · exact ih place
    · split
      · exact ih _
      · split
        · rfl
        · split
          · exact ih _
          · rfl
          · rfl

theorem bind_eq_ok {α β : Type} {x : Except OsError α} {f : α → Except OsError β} {b : β} :
    x.bind f = .ok b ↔ ∃ a, x = .ok a ∧ f a = .ok b := by
  cases x <;> simp [Except.bind]

theorem enter_append_eq_ok {t : FileTree} {place ps qs r : List String} :
    t.enter place (ps ++ qs) = .ok r ↔
      ∃ mid, t.enter place ps = .ok mid ∧ t.enter mid qs = .ok r := by
  rw [enter_append, bind_eq_ok]

/-- What one step of a walk does. -/
theorem enter_cons_eq_ok {t : FileTree} {place : List String} {p : String} {ps r : List String} :
    t.enter place (p :: ps) = .ok r ↔
      (p = "" ∨ p = ".") ∧ t.enter place ps = .ok r ∨
      p = ".." ∧ t.enter place.dropLast ps = .ok r ∨
      Path.IsName p ∧ p.utf8ByteSize ≤ longestName ∧
        t.node? (place ++ [p]) = some .directory ∧ t.enter (place ++ [p]) ps = .ok r := by
  rw [enter]
  by_cases hidle : p = "" ∨ p = "."
  · have hname : ¬ Path.IsName p := fun h => hidle.elim h.1 h.2.1
    have hup : p ≠ ".." := by rintro rfl; simp at hidle
    simp [hidle, hname, hup]
  · by_cases hup : p = ".."
    · subst hup
      simp [Path.IsName]
    · obtain ⟨hempty, hdot⟩ := not_or.1 hidle
      have hname : Path.IsName p := ⟨hempty, hdot, hup⟩
      by_cases hsize : p.utf8ByteSize > longestName
      · have hle : ¬ p.utf8ByteSize ≤ longestName := by omega
        simp [hempty, hdot, hup, hsize, hle]
      · have hle : p.utf8ByteSize ≤ longestName := by omega
        simp only [hempty, hdot, hup, hsize, hname, hle, decide_false, Bool.or_false, node?,
          Bool.false_eq_true, if_false, false_or, false_and, true_and]
        cases t.get? (place ++ [p]) with
        | none => simp
        | some u => cases u <;> simp [node]

theorem KeepsDirectories.enter {t t' : FileTree} (h : KeepsDirectories t t')
    {place ps r : List String} (he : t.enter place ps = .ok r) : t'.enter place ps = .ok r := by
  induction ps generalizing place with
  | nil => exact he
  | cons p ps ih =>
    rw [enter_cons_eq_ok] at he ⊢
    rcases he with ⟨hp, he⟩ | ⟨hp, he⟩ | ⟨hp, hsize, hd, he⟩
    · exact .inl ⟨hp, ih he⟩
    · exact .inr (.inl ⟨hp, ih he⟩)
    · exact .inr (.inr ⟨hp, hsize, h _ hd, ih he⟩)

theorem enter_directory {t : FileTree} {place ps r : List String}
    (h : t.node? place = some .directory) (he : t.enter place ps = .ok r) :
    t.node? r = some .directory := by
  induction ps generalizing place with
  | nil =>
    obtain rfl : place = r := Except.ok.inj he
    exact h
  | cons p ps ih =>
    rcases enter_cons_eq_ok.1 he with ⟨-, he⟩ | ⟨-, he⟩ | ⟨-, -, hd, he⟩
    · exact ih h he
    · exact ih (node?_dropLast h) he
    · exact ih hd he

/-- The trees in which a walk gets through agree on where it ends. -/
theorem enter_unique {t t' : FileTree} {place ps r r' : List String}
    (h : t.enter place ps = .ok r) (h' : t'.enter place ps = .ok r') : r = r' := by
  induction ps generalizing place with
  | nil => exact Except.ok.inj (h.symm.trans h')
  | cons p ps ih =>
    rcases enter_cons_eq_ok.1 h with ⟨hidle, h⟩ | ⟨rfl, h⟩ | ⟨hname, -, -, h⟩
    · rcases enter_cons_eq_ok.1 h' with ⟨-, h'⟩ | ⟨rfl, -⟩ | ⟨hname, -⟩
      · exact ih h h'
      · simp at hidle
      · exact absurd hidle (not_or.2 ⟨hname.1, hname.2.1⟩)
    · rcases enter_cons_eq_ok.1 h' with ⟨hidle, -⟩ | ⟨-, h'⟩ | ⟨hname, -⟩
      · simp at hidle
      · exact ih h h'
      · exact absurd rfl hname.2.2
    · rcases enter_cons_eq_ok.1 h' with ⟨hidle, -⟩ | ⟨hup, -⟩ | ⟨-, -, -, h'⟩
      · exact absurd hidle (not_or.2 ⟨hname.1, hname.2.1⟩)
      · exact absurd hup hname.2.2
      · exact ih h h'

/-- A walk gets through where the directories on its way are kept. -/
theorem enter_along {t t' : FileTree} {place ps r : List String}
    (hplace : t.node? place = some .directory)
    (hkept : ∀ before rest q, ps = before ++ rest → t.enter place before = .ok q →
      t.node? q = some .directory → t'.node? q = some .directory)
    (h : t.enter place ps = .ok r) : t'.enter place ps = .ok r := by
  induction ps generalizing place with
  | nil => exact h
  | cons p ps ih =>
    rw [enter_cons_eq_ok] at h ⊢
    have hstep : ∀ {place'}, t.node? place' = some .directory →
        (∀ before, t.enter place (p :: before) = t.enter place' before) →
        t.enter place' ps = .ok r → t'.enter place' ps = .ok r := by
      intro place' hd he
      refine ih hd fun before rest q hps hq => hkept (p :: before) rest q ?_ ?_
      · rw [hps, List.cons_append]
      · rw [he, hq]
    rcases h with ⟨hp, h⟩ | ⟨hp, h⟩ | ⟨hp, hsize, hd, h⟩
    · refine .inl ⟨hp, hstep hplace (fun before => ?_) h⟩
      rw [enter, if_pos (by simpa using hp)]
    · refine .inr (.inl ⟨hp, hstep (node?_dropLast hplace) (fun before => ?_) h⟩)
      rw [enter, hp]
      rfl
    · have hup : t.enter place [p] = .ok (place ++ [p]) :=
        enter_cons_eq_ok.2 (.inr (.inr ⟨hp, hsize, hd, rfl⟩))
      refine .inr (.inr ⟨hp, hsize, hkept [p] ps _ rfl hup hd, hstep hd (fun before => ?_) h⟩)
      rw [← List.singleton_append, enter_append, hup]
      rfl

/-- Names lead to the place that they spell. -/
theorem enter_names {t : FileTree} {place ps r : List String} (hps : ∀ p ∈ ps, Path.IsName p)
    (he : t.enter place ps = .ok r) : r = place ++ ps := by
  induction ps generalizing place with
  | nil =>
    obtain rfl : place = r := Except.ok.inj he
    simp
  | cons p ps ih =>
    have hp : Path.IsName p := hps p List.mem_cons_self
    rcases enter_cons_eq_ok.1 he with ⟨hidle, -⟩ | ⟨hup, -⟩ | ⟨-, -, -, he⟩
    · exact absurd hidle (not_or.2 ⟨hp.1, hp.2.1⟩)
    · exact absurd hup hp.2.2
    · simpa using ih (fun q hq => hps q (List.mem_cons_of_mem _ hq)) he

theorem enter_dropIdle (t : FileTree) (place ps : List String) :
    t.enter place (Path.dropIdle ps) = t.enter place ps := by
  induction ps generalizing place with
  | nil => rfl
  | cons p ps ih =>
    unfold Path.dropIdle at ih ⊢
    by_cases h : p = "" ∨ p = "."
    · rw [List.filter_cons_of_neg (by simpa [or_iff_not_imp_left] using h), ih, enter,
        if_pos (by simpa using h)]
    · rw [List.filter_cons_of_pos (by simpa using h)]
      simp only [enter, ih]

/-! ### Finding the end of a path -/

/-- A path as it is read before a tree is looked at: the parts to walk along, then the name at the
end, if there is one, and whether a slash follows it. -/
structure Reading where
  way : List String
  name? : Option String
  slash : Bool

/-- The segments without the empty ones at the end. -/
def named (p : String) : List String := ((Path.segments p).reverse.dropWhile (· == "")).reverse

def reading? (p : String) : Option Reading :=
  if p.toList.contains (Char.ofNat 0) then none
  else if p = "" then none
  else if p.utf8ByteSize > longestPath then none
  else
    match (named p).getLast? with
    | none => some ⟨[], none, false⟩
    | some last =>
      if last = "." || last = ".." then some ⟨named p, none, false⟩
      else if last.utf8ByteSize > longestName then none
      else some ⟨(named p).dropLast, some last, (named p).length < (Path.segments p).length⟩

theorem locate_eq (t : FileTree) (p : String) :
    t.locate p =
      if p.toList.contains (Char.ofNat 0) then .error .nulInPath
      else if p = "" then .error .notFound
      else if p.utf8ByteSize > longestPath then .error .nameTooLong
      else
        match (named p).getLast? with
        | none => .ok ⟨[], none, false⟩
        | some last => (t.enter [] (named p).dropLast).bind fun parent =>
          if last = "." || last = ".." then
            (t.enter parent [last]).bind fun place => .ok ⟨place, none, false⟩
          else if last.utf8ByteSize > longestName then .error .nameTooLong
          else .ok ⟨parent, some last, (named p).length < (Path.segments p).length⟩ := by
  rfl

theorem locate_eq_ok {t : FileTree} {p : String} {place : Place} :
    t.locate p = .ok place ↔
      ∃ way, reading? p = some ⟨way, place.name?, place.slash⟩ ∧
        t.enter [] way = .ok place.parent := by
  obtain ⟨parent, name?, slash⟩ := place
  rw [locate_eq, reading?]
  split
  · simp
  split
  · simp
  split
  · simp
  cases h : (named p).getLast? with
  | none =>
    constructor
    · intro he
      cases he
      exact ⟨[], rfl, rfl⟩
    · rintro ⟨way, hr, he⟩
      cases hr
      cases he
      rfl
  | some last =>
    obtain ⟨before, hb⟩ := List.getLast?_eq_some_iff.1 h
    -- dots at the end are walked along, anything else is a name
    by_cases hdots : (decide (last = ".") || decide (last = "..")) = true
    · simp only [if_pos hdots, hb, List.dropLast_concat, bind_eq_ok]
      constructor
      · rintro ⟨v, hv, w, hw, he⟩
        cases he
        exact ⟨_, rfl, enter_append_eq_ok.2 ⟨v, hv, hw⟩⟩
      · rintro ⟨way, hr, he⟩
        cases hr
        obtain ⟨v, hv, hw⟩ := enter_append_eq_ok.1 he
        exact ⟨v, hv, parent, hw, rfl⟩
    · simp only [if_neg hdots, bind_eq_ok]
      constructor
      · rintro ⟨v, hv, he⟩
        split at he
        · cases he
        · next hsize =>
          cases he
          rw [if_neg hsize]
          exact ⟨_, rfl, hv⟩
      · rintro ⟨way, hr, he⟩
        split at hr
        · cases hr
        · next hsize =>
          cases hr
          exact ⟨parent, he, if_neg hsize⟩

theorem KeepsDirectories.locate {t t' : FileTree} (h : KeepsDirectories t t') {p : String}
    {place : Place} (hp : t.locate p = .ok place) : t'.locate p = .ok place := by
  obtain ⟨way, hr, he⟩ := locate_eq_ok.1 hp
  exact locate_eq_ok.2 ⟨way, hr, h.enter he⟩

theorem locate_unique {t t' : FileTree} {p : String} {place place' : Place}
    (h : t.locate p = .ok place) (h' : t'.locate p = .ok place') : place = place' := by
  obtain ⟨way, hr, he⟩ := locate_eq_ok.1 h
  obtain ⟨way', hr', he'⟩ := locate_eq_ok.1 h'
  obtain ⟨rfl, hname, hslash⟩ := Reading.mk.inj (Option.some.inj (hr.symm.trans hr'))
  obtain ⟨parent, name?, slash⟩ := place
  obtain ⟨parent', name?', slash'⟩ := place'
  cases hname
  cases hslash
  cases enter_unique he he'
  rfl

theorem dropIdle_named (p : String) : Path.dropIdle (named p) = Path.steps p := by
  have hdrop : ∀ ps : List String, Path.dropIdle (ps.dropWhile (· == "")) = Path.dropIdle ps := by
    intro ps
    induction ps with
    | nil => rfl
    | cons q ps ih =>
      by_cases hq : q = ""
      · rw [List.dropWhile_cons_of_pos (by simpa using hq), ih, hq]
        rfl
      · rw [List.dropWhile_cons_of_neg (by simpa using hq)]
  unfold Path.dropIdle at hdrop
  rw [named, ← Path.dropIdle_segments, Path.dropIdle, Path.dropIdle, List.filter_reverse, hdrop,
    List.filter_reverse, List.reverse_reverse]

theorem ne_empty_of_named {p last : String} {before : List String}
    (h : named p = before ++ [last]) : last ≠ "" := by
  have hrev : (Path.segments p).reverse.dropWhile (· == "") = last :: before.reverse := by
    rw [← List.reverse_inj, List.reverse_cons, List.reverse_reverse]
    exact h
  have hne : (Path.segments p).reverse.dropWhile (· == "") ≠ [] := by simp [hrev]
  simpa [hrev] using List.head_dropWhile_not (· == "") hne

/-- The way and the name together are the steps of the path. -/
theorem reading?_cases {p : String} {r : Reading} (h : reading? p = some r) :
    (r.name? = none ∧ r.slash = false ∧ Path.dropIdle r.way = Path.steps p) ∨
      ∃ n, r.name? = some n ∧ Path.IsName n ∧ n.utf8ByteSize ≤ longestName ∧
        Path.steps p = Path.dropIdle r.way ++ [n] := by
  rw [reading?] at h
  split at h
  · cases h
  split at h
  · cases h
  split at h
  · cases h
  split at h
  · next hlast =>
    cases h
    rw [List.getLast?_eq_none_iff] at hlast
    exact .inl ⟨rfl, rfl, by rw [← dropIdle_named, hlast]⟩
  next last hlast =>
  obtain ⟨before, hb⟩ := List.getLast?_eq_some_iff.1 hlast
  split at h
  · cases h
    exact .inl ⟨rfl, rfl, dropIdle_named p⟩
  next hdots =>
  split at h
  · cases h
  next hsize =>
  cases h
  obtain ⟨hdot, hup⟩ : last ≠ "." ∧ last ≠ ".." := by simpa using hdots
  have hname : Path.IsName last := ⟨ne_empty_of_named hb, hdot, hup⟩
  refine .inr ⟨last, rfl, hname, by omega, ?_⟩
  rw [← dropIdle_named, hb, List.dropLast_concat, Path.dropIdle_append,
    Path.dropIdle_singleton hname]

/-- A name at the end of a path is its last step, and the other steps lead to its directory. -/
theorem locate_named {t : FileTree} {p : String} {place : Place} (h : t.locate p = .ok place)
    {n : String} (hn : place.name? = some n) :
    ∃ before, Path.steps p = before ++ [n] ∧ Path.IsName n ∧ n.utf8ByteSize ≤ longestName ∧
      t.enter [] before = .ok place.parent := by
  obtain ⟨way, hr, he⟩ := locate_eq_ok.1 h
  rcases reading?_cases hr with ⟨hnone, -⟩ | ⟨m, hm, hname, hsize, hsteps⟩
  · cases hn.symm.trans hnone
  · obtain rfl : n = m := Option.some.inj (hn.symm.trans hm)
    exact ⟨_, hsteps, hname, hsize, (enter_dropIdle t [] way).trans he⟩

theorem enter_parent {t : FileTree} {p : String} {place : Place} (h : t.locate p = .ok place)
    {n : String} (hn : place.name? = some n) :
    t.enter [] (Path.steps ((Path.parent? p).getD "")) = .ok place.parent := by
  obtain ⟨before, hsteps, -, -, he⟩ := locate_named h hn
  rwa [Path.steps_parent, hsteps, List.dropLast_concat]

/-- A path leads on to the same place where the directories on its way are kept. -/
theorem locate_along {t t' : FileTree} {p : String} {place : Place}
    (hroot : t.node? [] = some .directory)
    (hkept : ∀ before rest q, Path.steps p = before ++ rest → t.enter [] before = .ok q →
      t.node? q = some .directory → t'.node? q = some .directory)
    (h : t.locate p = .ok place) : t'.locate p = .ok place := by
  obtain ⟨way, hr, he⟩ := locate_eq_ok.1 h
  refine locate_eq_ok.2 ⟨way, hr, ?_⟩
  have hway : ∃ last, Path.steps p = Path.dropIdle way ++ last := by
    rcases reading?_cases hr with ⟨-, -, hway⟩ | ⟨n, -, -, -, hway⟩
    · exact ⟨[], by rw [← hway, List.append_nil]⟩
    · exact ⟨[n], hway⟩
  obtain ⟨last, hsteps⟩ := hway
  rw [← enter_dropIdle] at he ⊢
  refine enter_along hroot (fun before rest q hb => hkept before (rest ++ last) q ?_) he
  rw [hsteps, hb, List.append_assoc]

/-- A path without a name at its end leads to a directory. -/
theorem locate_unnamed {t : FileTree} {p : String} {place : Place} (h : t.locate p = .ok place)
    (hn : place.name? = none) :
    t.enter [] (Path.steps p) = .ok place.parent ∧ place.slash = false := by
  obtain ⟨way, hr, he⟩ := locate_eq_ok.1 h
  rcases reading?_cases hr with ⟨-, hslash, hway⟩ | ⟨m, hm, -⟩
  · exact ⟨hway ▸ (enter_dropIdle t [] way).trans he, hslash⟩
  · cases hn.symm.trans hm

end SpringScaffold.FileTree
