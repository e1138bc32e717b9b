import SpringScaffold.Disk.Path
import SpringScaffold.Proofs.SplitOn

/-! The steps of a path: its parts without those that stand for the place where they are. Joining,
the parent of a path and its file name are read off the steps. -/

namespace SpringScaffold.Path

open Text

def stepChars (p : List Char) : List (List Char) := (splitOn ['/'] p).filter (!isIdle ·)

def steps (p : String) : List String := (stepChars p.toList).map String.ofList

theorem stepChars_of_notMem {n : List Char} (h : '/' ∉ n) (hidle : isIdle n = false) :
    stepChars n = [n] := by
  rw [stepChars, splitOn_of_notMem h, List.filter_cons_of_pos (by simp [hidle]), List.filter_nil]

@[simp] theorem stepChars_nil : stepChars [] = [] := rfl

theorem stepChars_append (p q : List Char) :
    stepChars (p ++ '/' :: q) = stepChars p ++ stepChars q := by
  rw [stepChars, splitOn_append, List.filter_append]
  rfl

theorem stepChars_slash (p : List Char) : stepChars ('/' :: p) = stepChars p :=
  stepChars_append [] p

theorem stepChars_dotSlash (p : List Char) : stepChars ('.' :: '/' :: p) = stepChars p :=
  stepChars_append ['.'] p

theorem stepChars_intercalate {ps : List (List Char)} (h : ∀ p ∈ ps, '/' ∉ p) :
    stepChars (['/'].intercalate ps) = ps.filter (!isIdle ·) := by
  cases ps with
  | nil => rfl
  | cons p rest =>
    have hsplit : IsSplit '/' (['/'].intercalate (p :: rest)) (p :: rest) := ⟨by simp, h, rfl⟩
    rw [stepChars, ← hsplit.eq_splitOn]

@[simp] theorem steps_empty : steps "" = [] := rfl

theorem steps_append_slash (p q : String) : steps (p ++ "/" ++ q) = steps p ++ steps q := by
  simp only [steps, String.toList_append, List.append_assoc, ← List.map_append]
  exact congrArg _ (stepChars_append _ _)

theorem steps_join (base p : String) : steps (join base p) = steps base ++ steps p := by
  unfold join
  split
  · next h => rw [h, steps_empty, List.nil_append]
  · split
    · next h =>
      obtain ⟨before, hb⟩ := List.getLast?_eq_some_iff.1 h
      simp only [steps, String.toList_append, hb, List.append_assoc, List.singleton_append,
        stepChars_append, stepChars_nil, List.append_nil, List.map_append]
    · exact steps_append_slash base p

theorem steps_of_notMem {n : String} (h : '/' ∉ n.toList) (hidle : isIdle n.toList = false) :
    steps n = [n] := by
  rw [steps, stepChars_of_notMem h hidle, List.map_singleton, String.ofList_toList]

/-- A part that names an entry of the directory where it is. -/
def IsName (n : String) : Prop := n ≠ "" ∧ n ≠ "." ∧ n ≠ ".."

/-- What lies between the slashes of a path. -/
def segments (p : String) : List String := (splitOn ['/'] p.toList).map String.ofList

/-- The parts that are not idle. -/
def dropIdle (ps : List String) : List String := ps.filter fun p => !(p == "" || p == ".")

theorem dropIdle_append (ps qs : List String) : dropIdle (ps ++ qs) = dropIdle ps ++ dropIdle qs :=
  List.filter_append ps qs

theorem isIdle_iff (cs : List Char) :
    isIdle cs = true ↔ String.ofList cs = "" ∨ String.ofList cs = "." := by
  rw [isIdle, Bool.or_eq_true, beq_iff_eq, beq_iff_eq, ← String.toList_inj, ← String.toList_inj,
    String.toList_ofList]
  rfl

theorem dropIdle_segments (p : String) : dropIdle (segments p) = steps p := by
  unfold dropIdle segments steps stepChars
  rw [List.filter_map]
  congr 2
  funext cs
  have h : isIdle cs = (String.ofList cs == "" || String.ofList cs == ".") := by
    rw [Bool.eq_iff_iff, isIdle_iff]
    simp
  rw [Function.comp_apply, h]

theorem ne_of_mem_dropIdle {ps : List String} {n : String} (h : n ∈ dropIdle ps) :
    n ≠ "" ∧ n ≠ "." := by simpa [dropIdle] using (List.mem_filter.1 h).2

theorem ne_of_mem_steps {p n : String} (h : n ∈ steps p) : n ≠ "" ∧ n ≠ "." :=
  ne_of_mem_dropIdle (dropIdle_segments p ▸ h)

theorem dropIdle_singleton {n : String} (h : IsName n) : dropIdle [n] = [n] :=
  List.filter_cons_of_pos (by simp [h.1, h.2.1])

/-- A step is a path of one step. -/
theorem steps_of_mem_steps {p n : String} (h : n ∈ steps p) : steps n = [n] := by
  obtain ⟨cs, hcs, rfl⟩ := List.mem_map.1 h
  obtain ⟨hmem, hidle⟩ := List.mem_filter.1 hcs
  apply steps_of_notMem
  · rw [String.toList_ofList]
    exact (isSplit_splitOn '/' _).notMem cs hmem
  · rw [String.toList_ofList]
    simpa using hidle

/-! ### Parts -/

theorem head_cases (p : List Char) :
    (∃ rest, p = '/' :: rest ∧ head p = ['/']) ∨ p = ['.'] ∨ (∃ rest, p = '.' :: '/' :: rest) ∨
      head p = [] := by
  unfold head
  split
  · next rest => exact .inl ⟨rest, rfl, rfl⟩
  · exact .inr (.inl rfl)
  · next rest => exact .inr (.inr (.inl ⟨rest, rfl⟩))
  · exact .inr (.inr (.inr rfl))

theorem parts_eq (p : List Char) :
    parts p = [] ∧ p.drop (head p).length = [] ∨
      parts p = splitOn ['/'] (p.drop (head p).length) := by
  unfold parts
  split
  · next h => exact .inl ⟨rfl, h⟩
  · exact .inr rfl

theorem notMem_parts {p : List Char} : ∀ q ∈ parts p, '/' ∉ q := by
  rcases parts_eq p with ⟨h, -⟩ | h
  · simp [h]
  · rw [h]
    exact (isSplit_splitOn '/' _).notMem

theorem filter_parts (p : List Char) : (parts p).filter (!isIdle ·) = stepChars p := by
  have hdrop : (parts p).filter (!isIdle ·) = stepChars (p.drop (head p).length) := by
    rcases parts_eq p with ⟨h, hnil⟩ | h
    · rw [h, hnil]
      rfl
    · rw [h, stepChars]
  rw [hdrop]
  rcases head_cases p with ⟨rest, rfl, -⟩ | rfl | ⟨rest, rfl⟩ | h
  · exact (stepChars_slash rest).symm
  · rfl
  · exact (stepChars_slash rest).trans (stepChars_dotSlash rest).symm
  · rw [h, List.length_nil, List.drop_zero]

theorem filter_dropWhile_isIdle (ps : List (List Char)) :
    (ps.dropWhile isIdle).filter (!isIdle ·) = ps.filter (!isIdle ·) := by
  induction ps with
  | nil => rfl
  | cons p ps ih =>
    cases h : isIdle p with
    | true => rw [List.dropWhile_cons_of_pos h, ih, List.filter_cons_of_neg (by simp [h])]
    | false => rw [List.dropWhile_cons_of_neg (by simp [h])]

theorem filter_trimmed (ps : List (List Char)) :
    (trimmed ps).filter (!isIdle ·) = ps.filter (!isIdle ·) := by
  rw [trimmed, List.filter_reverse, filter_dropWhile_isIdle, List.filter_reverse,
    List.reverse_reverse]

theorem trimmed_prefixOf (ps : List (List Char)) : trimmed ps <+: ps := by
  rw [trimmed, ← List.reverse_suffix, List.reverse_reverse]
  exact List.dropWhile_suffix _

/-- What is left of the parts ends in a step. -/
theorem trimmed_eq_nil_or (ps : List (List Char)) :
    trimmed ps = [] ∨ ∃ before last, trimmed ps = before ++ [last] ∧ isIdle last = false := by
  unfold trimmed
  cases h : ps.reverse.dropWhile isIdle with
  | nil => exact .inl rfl
  | cons last before =>
    refine .inr ⟨before.reverse, last, by simp, ?_⟩
    have hne : ps.reverse.dropWhile isIdle ≠ [] := by simp [h]
    simpa [h] using List.head_dropWhile_not isIdle hne

/-- The end of the parts is the end of the steps. -/
theorem getLast?_trimmed_parts (p : List Char) :
    (trimmed (parts p)).getLast? = (stepChars p).getLast? := by
  rw [← filter_parts, ← filter_trimmed]
  rcases trimmed_eq_nil_or (parts p) with h | ⟨before, last, h, hlast⟩
  · rw [h]
    rfl
  · have hkeep : [last].filter (!isIdle ·) = [last] := List.filter_cons_of_pos (by simp [hlast])
    rw [h, List.filter_append, hkeep, List.getLast?_concat, List.getLast?_concat]

/-- Joined to their head, the first of the parts give a path with the steps among them. -/
theorem stepChars_joinParts {p : List Char} {qs : List (List Char)} (h : qs <+: parts p) :
    stepChars (joinParts (head p) qs) = qs.filter (!isIdle ·) := by
  have hqs : ∀ q ∈ qs, '/' ∉ q := fun q hq => notMem_parts q (h.subset hq)
  have hjoin := stepChars_intercalate hqs
  unfold joinParts
  rcases head_cases p with ⟨rest, -, hhead⟩ | rfl | ⟨rest, rfl⟩ | hhead
  · rw [hhead]
    exact (stepChars_slash _).trans hjoin
  · obtain rfl : qs = [] := List.prefix_nil.1 h
    rfl
  · -- behind a dot the first part is empty
    have hparts : parts ('.' :: '/' :: rest) = [] :: splitOn ['/'] rest :=
      splitOn_append '/' [] rest
    rw [hparts] at h
    rcases List.prefix_cons_iff.1 h with rfl | ⟨_ | ⟨q, qs⟩, rfl, -⟩
    · rfl
    · rfl
    · exact (stepChars_dotSlash _).trans ((stepChars_slash _).symm.trans hjoin)
  · rw [hhead]
    exact hjoin

theorem steps_parent (p : String) : steps ((parent? p).getD "") = (steps p).dropLast := by
  have hfilter := (filter_trimmed (parts p.toList)).trans (filter_parts p.toList)
  unfold parent? parentChars? steps
  rcases trimmed_eq_nil_or (parts p.toList) with h | ⟨before, last, h, hlast⟩
  · rw [← hfilter, h, List.reverse_nil]
    by_cases hhead : head p.toList = ['.']
    · simp [hhead]
    · simp [hhead]
  · have hprefix : trimmed before <+: parts p.toList :=
      (trimmed_prefixOf before).trans ((List.prefix_append before [last]).trans
        (h ▸ trimmed_prefixOf (parts p.toList)))
    have hkeep : [last].filter (!isIdle ·) = [last] := List.filter_cons_of_pos (by simp [hlast])
    rw [← hfilter, h, List.reverse_concat]
    simp only [List.reverse_reverse, Option.map_some, Option.getD_some, String.toList_ofList]
    rw [stepChars_joinParts hprefix, filter_trimmed, List.filter_append, hkeep, List.map_append,
      List.map_singleton, List.dropLast_concat]

theorem steps_of_parent?_eq_none {p : String} (h : parent? p = none) : steps p = [] := by
  rw [parent?, Option.map_eq_none_iff, parentChars?] at h
  rcases trimmed_eq_nil_or (parts p.toList) with hnil | ⟨before, last, hb, -⟩
  · rw [steps, ← filter_parts, ← filter_trimmed, hnil]
    rfl
  · rw [hb, List.reverse_concat] at h
    cases h

/-- The paths that lead to a path begin with it, unless it stands for the top. -/
theorem ancestors_cases (p : String) :
    ancestors p = [] ∧ steps p = [] ∨ ∃ shorter, ancestors p = p :: shorter := by
  unfold ancestors ancestorsUpTo
  cases h : parent? p with
  | none => exact .inl ⟨rfl, steps_of_parent?_eq_none h⟩
  | some q =>
    by_cases hp : p = ""
    · exact .inl ⟨if_pos hp, hp ▸ steps_empty⟩
    · exact .inr ⟨_, if_neg hp⟩

theorem steps_prefix_of_mem_ancestorsUpTo {fuel : Nat} {p a : String}
    (h : a ∈ ancestorsUpTo fuel p) : a = p ∨ steps a <+: (steps p).dropLast := by
  induction fuel generalizing p with
  | zero => cases h
  | succ fuel ih =>
    rw [ancestorsUpTo] at h
    split at h
    · next q hq =>
      split at h
      · cases h
      · have hsteps : steps q = (steps p).dropLast := by rw [← steps_parent, hq, Option.getD_some]
        rcases List.mem_cons.1 h with rfl | h
        · exact .inl rfl
        · right
          rcases ih h with rfl | h
          · exact hsteps ▸ List.prefix_refl _
          · exact hsteps ▸ h.trans (List.dropLast_prefix _)
    · cases h

theorem steps_prefix_of_mem_ancestors {p a : String} (h : a ∈ ancestors p) :
    a = p ∨ steps a <+: (steps p).dropLast := steps_prefix_of_mem_ancestorsUpTo h

/-- The file name is the last step, unless that leads upwards. -/
theorem fileName?_eq_getLast? {p n : String} :
    fileName? p = some n ↔ (steps p).getLast? = some n ∧ n ≠ ".." := by
  have hlast : (steps p).getLast? = (trimmed (parts p.toList)).getLast?.map String.ofList := by
    rw [getLast?_trimmed_parts, steps, List.getLast?_map]
  have hup : ∀ cs : List Char, String.ofList cs = ".." ↔ cs = ['.', '.'] := fun cs =>
    ⟨fun h => by simpa using congrArg String.toList h, fun h => by rw [h]⟩
  rw [hlast, fileName?]
  cases (trimmed (parts p.toList)).getLast? with
  | none => simp
  | some cs =>
    simp only [Option.map_some, Option.some.injEq]
    split
    · next hcs =>
      constructor
      · intro h
        cases h
      · rintro ⟨rfl, hn⟩
        exact absurd ((hup cs).2 hcs) hn
    · next hcs =>
      constructor
      · intro h
        obtain rfl := Option.some.inj h
        exact ⟨rfl, fun hd => hcs ((hup cs).1 hd)⟩
      · rintro ⟨rfl, -⟩
        rfl

theorem fileName?_eq_some {p n : String} :
    fileName? p = some n ↔ ∃ before, steps p = before ++ [n] ∧ n ≠ ".." := by
  simp [fileName?_eq_getLast?, List.getLast?_eq_some_iff]

/-- What stands before the file name does not matter to it. -/
theorem fileName?_join {base p : String} (h : steps p ≠ []) :
    fileName? (join base p) = fileName? p := by
  obtain ⟨before, last, hlast⟩ : ∃ before last, steps p = before ++ [last] :=
    ⟨_, _, (List.dropLast_concat_getLast h).symm⟩
  ext n
  rw [fileName?_eq_getLast?, fileName?_eq_getLast?, steps_join, hlast, ← List.append_assoc,
    List.getLast?_concat, List.getLast?_concat]

theorem steps_of_fileName? {p n : String} (h : fileName? p = some n) :
    steps p = steps ((parent? p).getD "") ++ [n] := by
  obtain ⟨before, hb, -⟩ := fileName?_eq_some.1 h
  rw [steps_parent, hb, List.dropLast_concat]

end SpringScaffold.Path
