import SpringScaffold.Proofs.Delivery

/-! Writing rendered files a second time gets through and leaves the tree as it is
(`Spec.generate_again`). After the first run every file can be written and routed without a new
directory, since directories have names without a dot and files have names with one. What is
delivered again is what stands there already. -/

namespace SpringScaffold

open FileTree

namespace FileTree

/-! ### Where directories stand -/

/-- The directories stand at the same places. -/
def SameDirectories (a b : FileTree) : Prop :=
  ∀ q, a.node? q = some .directory ↔ b.node? q = some .directory

/-- No directory is lost, and those that are new have names without a dot. -/
structure Furnished (before after : FileTree) : Prop where
  keeps : KeepsDirectories before after
  dotless : ∀ {q n}, '.' ∈ n.toList → after.node? (q ++ [n]) = some .directory →
    before.node? (q ++ [n]) = some .directory

variable {a b c t : FileTree}

namespace SameDirectories

theorem refl (t : FileTree) : SameDirectories t t := fun _ => Iff.rfl

theorem trans (h : SameDirectories a b) (h' : SameDirectories b c) : SameDirectories a c :=
  fun q => (h q).trans (h' q)

theorem furnished (h : SameDirectories a b) : Furnished a b :=
  ⟨fun q hq => (h q).1 hq, fun _ hq => (h _).2 hq⟩

/-- Directories and the contents of files are all there is. -/
theorem node?_eq (h : SameDirectories a b) (hfiles : a.file? = b.file?) (q : List String) :
    a.node? q = b.node? q := by
  have hq := congrFun hfiles q
  unfold file? at hq
  cases ha : a.node? q with
  | none => cases hb : b.node? q with
    | none => rfl
    | some k => cases k with
      | file content => simp [ha, hb] at hq
      | directory => cases ha.symm.trans ((h q).2 hb)
  | some k => cases k with
    | directory => exact ((h q).1 ha).symm
    | file content => cases hb : b.node? q with
      | none => simp [ha, hb] at hq
      | some k => cases k with
        | file content' => simpa [ha, hb] using hq
        | directory => cases ha.symm.trans ((h q).2 hb)

end SameDirectories

theorem Furnished.trans (h : Furnished a b) (h' : Furnished b c) : Furnished a c :=
  ⟨h.keeps.trans h'.keeps, fun hn hq => h.dotless hn (h'.dotless hn hq)⟩

/-- Putting a file where no directory stands does not touch directories. -/
theorem sameDirectories_set {p : List String} {n : String} (hp : t.node? p = some .directory)
    (h : t.node? (p ++ [n]) ≠ some .directory) (content : ByteArray) :
    SameDirectories t (t.set (some (.file content)) (p ++ [n])) := by
  intro q
  refine ⟨keepsDirectories_set h _ q, fun hq => ?_⟩
  by_cases hbelow : p ++ [n] <+: q
  · obtain ⟨r, rfl⟩ := hbelow
    rw [List.append_assoc, List.singleton_append, node?, get?_set hp] at hq
    cases r <;> cases hq
  · rwa [node?_set_of_not_below _ _ hbelow] at hq

theorem Moved.sameDirectories {source target : List String} {content : ByteArray}
    (h : Moved source target (.file content) a b) : SameDirectories a b := by
  intro q
  refine ⟨h.keepsDirectories q, fun hq => ?_⟩
  refine (h.node?_origin hq).resolve_left fun htarget => ?_
  have hfile : b.node? target ≠ some .directory := by simp [node?_of_get? h.arrived, node]
  by_cases hne : q = target
  · exact hfile (hne ▸ hq)
  · cases (node?_eq_none_of_below hfile htarget hne).symm.trans hq

/-- Neither of the two places of a move is below the other. -/
theorem Moved.apart {source target : List String} {moved : FileTree}
    (h : Moved source target moved a b) : ¬ source <+: target ∧ ¬ target <+: source := by
  have hbelow : ¬ source <+: target := fun hprefix => by
    cases (h.gone hprefix).symm.trans h.arrived
  refine ⟨hbelow, fun hprefix => ?_⟩
  by_cases hne : source = target
  · exact hbelow (hne ▸ List.prefix_refl _)
  · cases (h.free hprefix hne).symm.trans h.found

/-- The directories that are made below one that can be entered are those that the path names. -/
theorem Grown.furnished {base p : String} {way top : List String}
    (h : Grown (Path.ancestors p) a b) (ha : a.isDirectory = true)
    (hbase : a.enter [] (Path.steps base) = .ok top)
    (hsteps : Path.steps p = Path.steps base ++ way) (hway : ∀ d ∈ way, '.' ∉ d.toList) :
    Furnished a b := by
  have hnames : ∀ d ∈ way, Path.IsName d := by
    intro d hd
    obtain ⟨hempty, hdot⟩ : d ≠ "" ∧ d ≠ "." :=
      Path.ne_of_mem_steps (p := p) (by simp [hsteps, hd])
    refine ⟨hempty, hdot, ?_⟩
    rintro rfl
    exact hway _ hd (by decide)
  refine ⟨h.keepsDirectories, fun {q n} hn hq => ?_⟩
  cases hold : a.node? (q ++ [n]) with
  | some k => rw [← hq, h.kept hold]
  | none =>
    exfalso
    obtain ⟨-, p', hp', place, hplace, haddress⟩ := h.added hold hq
    have henter := enter_of_locate hplace (haddress ▸ hq)
    rw [← haddress] at henter
    have hprefix : Path.steps p' <+: Path.steps base ++ way := by
      rw [← hsteps]
      rcases Path.steps_prefix_of_mem_ancestors hp' with rfl | hprefix
      · exact List.prefix_refl _
      · exact hprefix.trans (List.dropLast_prefix _)
    rcases List.prefix_or_prefix_of_prefix hprefix (List.prefix_append _ way) with hover | hover
    · -- what leads to the directory that can be entered is there
      obtain ⟨rest, hrest⟩ := hover
      rw [← hrest] at hbase
      obtain ⟨mid, hmid, -⟩ := enter_append_eq_ok.1 hbase
      have hd := enter_directory (node?_root.2 ha) hmid
      rw [enter_unique hmid henter, hold] at hd
      cases hd
    · obtain ⟨w, hw⟩ := hover
      rw [← hw] at hprefix henter
      have hsub := (List.prefix_append_right_inj _).1 hprefix
      obtain ⟨top', -, hwalk⟩ := enter_append_eq_ok.1 henter
      have hplace := enter_names (fun d hd => hnames d (hsub.subset hd)) hwalk
      rcases List.eq_nil_or_concat' w with rfl | ⟨w, m, rfl⟩
      · -- the path is that of the directory itself
        rw [List.append_nil] at henter
        have hd := enter_directory (node?_root.2 ha) hbase
        rw [enter_unique hbase henter, hold] at hd
        cases hd
      · rw [← List.append_assoc] at hplace
        obtain ⟨-, hnm⟩ := List.append_inj' hplace rfl
        obtain rfl := List.singleton_inj.1 hnm
        exact hway n (hsub.subset (by simp)) hn

theorem KeepsDirectories.hasDirectory (h : KeepsDirectories a b) {p : String}
    (hp : a.HasDirectory p) : b.HasDirectory p := by
  rcases hp with htop | ⟨entries, hopen⟩
  · exact .inl htop
  · obtain ⟨place, hplace, hd⟩ := open?_eq_ok hopen
    obtain ⟨entries', hd'⟩ := node?_eq_directory.1 (h _ (node?_eq_directory.2 ⟨entries, hd⟩))
    exact .inr ⟨entries', open?_of_locate (h.locate hplace) hd' nofun⟩

/-- Nothing is made where the directory is there. -/
theorem HasDirectory.createDirectories {p : String} (h : t.HasDirectory p) :
    t.createDirectories p = (.ok (), t) := by
  unfold FileTree.createDirectories
  rcases Path.ancestors_cases p with ⟨htop, -⟩ | ⟨shorter, hp⟩
  · rw [htop]
    rfl
  · rcases h with ⟨htop, -⟩ | ⟨entries, hopen⟩
    · rw [htop]
      rfl
    · obtain ⟨place, hplace, hd⟩ := open?_eq_ok hopen
      have hat : t.at? place = some (.directory entries) := hd
      have hmake : t.makeDirectory p = .error .exists := by
        simp only [makeDirectory, hplace, bind, Except.bind, hat]
        split
        · next hnone => cases hnone
        · rfl
      have hensure : t.ensureDirectory p = .ok t := by
        rw [ensureDirectory, hmake]
        simp only [hopen]
      rw [hp, ensureAll, hensure]

/-! ### Files that can be written -/

/-- The path leads to a name with a dot, and no directory stands there. -/
def NamesFile (t : FileTree) (p : String) (q : List String) : Prop :=
  ∃ place n, t.locate p = .ok place ∧ place.name? = some n ∧ place.slash = false ∧
    '.' ∈ n.toList ∧ q = place.parent ++ [n] ∧ t.node? q ≠ some .directory

theorem Furnished.namesFile (h : Furnished a b) {p : String} {q : List String}
    (hp : a.NamesFile p q) : b.NamesFile p q := by
  obtain ⟨place, n, hplace, hn, hslash, hdot, rfl, hfree⟩ := hp
  exact ⟨place, n, h.keeps.locate hplace, hn, hslash, hdot, rfl,
    fun hd => hfree (h.dotless hdot hd)⟩

namespace NamesFile

variable {p target : String} {q q' : List String}

/-- Where no directory stands the path ends in a name. -/
theorem of_address (ht : t.isDirectory = true) {place : Place} (hplace : t.locate p = .ok place)
    {n : String} (haddress : place.address = q ++ [n]) (hslash : place.slash = false)
    (hdot : '.' ∈ n.toList) (hfree : t.node? (q ++ [n]) ≠ some .directory) :
    t.NamesFile p (q ++ [n]) := by
  cases hname : place.name? with
  | none =>
    rw [← haddress, Place.address, hname, Option.toList_none, List.append_nil] at hfree
    exact absurd (node?_parent ht hplace) hfree
  | some m =>
    rw [Place.address_of_named hname] at haddress
    obtain ⟨hparent, hm⟩ := List.append_inj' haddress rfl
    obtain rfl := List.singleton_inj.1 hm
    exact ⟨place, m, hplace, hname, hslash, hdot, by rw [hparent], hfree⟩

theorem write (h : t.NamesFile p q) (content : String) :
    t.write p content = .ok (t.set (some (.file content.toUTF8)) q) := by
  obtain ⟨place, n, hplace, hn, hslash, -, rfl, hfree⟩ := h
  have hat : t.at? place = t.get? (place.parent ++ [n]) := by
    rw [at?, hn]
    rfl
  simp only [FileTree.write, hplace, bind, Except.bind, hn, hslash, hat, pure, Except.pure,
    Bool.false_eq_true, if_false]
  split
  · next entries hd => exact absurd (node?_eq_directory.2 ⟨entries, hd⟩) hfree
  · rfl

theorem set (h : t.NamesFile p q) (ht : t.isDirectory = true) (content : ByteArray) :
    (t.set (some (.file content)) q).get? q = some (.file content) ∧
      SameDirectories t (t.set (some (.file content)) q) := by
  obtain ⟨place, n, hplace, hn, -, -, rfl, hfree⟩ := h
  have hparent := node?_parent ht hplace
  exact ⟨by rw [get?_set hparent]; rfl, sameDirectories_set hparent hfree content⟩

/-- A file can be moved to where no directory stands. -/
theorem rename (h : t.NamesFile p q) (h' : t.NamesFile target q') {content : ByteArray}
    (hfile : t.get? q = some (.file content)) (hbelow : ¬ q <+: q') (habove : ¬ q' <+: q) :
    ∃ t', t.rename p target = .ok t' ∧ Moved q q' (.file content) t t' := by
  obtain ⟨s, n, hs, hn, hslash, -, rfl, -⟩ := h
  obtain ⟨d, m, hd, hm, hslash', -, rfl, hfree⟩ := h'
  have hparent := node?_parent (isDirectory_of_get? hfile) hd
  have hold : ∀ u, t.get? (d.parent ++ [m]) = some u → u.isDirectory = false := by
    intro u hu
    by_contra hdir
    refine hfree ?_
    rw [node?_of_get? hu, node_eq_directory.2 (by simpa using hdir)]
  have hreplace : Replaceable (.file content) (t.get? (d.parent ++ [m])) := by
    intro u hu
    refine ⟨hold u hu, ?_⟩
    rintro entries rfl
    cases hold _ hu
  refine ⟨_, ?_, moved_set hfile hparent hbelow habove hreplace⟩
  have hne : s.parent ++ [n] ≠ d.parent ++ [m] := fun he => hbelow (he ▸ List.prefix_refl _)
  rw [rename_eq hs hd hn hm, Place.address_of_named hn, Place.address_of_named hm, hfile]
  simp only [hslash, hslash', hne, hbelow, habove, List.isPrefixOf_iff_prefix, isDirectory,
    Bool.or_self, Bool.and_false, Bool.false_eq_true, if_false]
  cases hu : t.get? (d.parent ++ [m]) with
  | none => rfl
  | some u =>
    cases u with
    | file old => rfl
    | directory entries => cases hold _ hu

end NamesFile

end FileTree

/-- A file can be written to the path and routed from there without a new directory. -/
structure Ready (t : FileTree) (p : String) (r : Role) : Prop where
  way : t.HasDirectory ((Path.parent? p).getD "")
  place : ∃ q, t.NamesFile p q ∧
    (destination p r = .ok none ∨
      ∃ target q', destination p r = .ok (some target) ∧
        t.HasDirectory ((Path.parent? target).getD "") ∧ t.NamesFile target q' ∧
        ¬ q <+: q' ∧ ¬ q' <+: q)

theorem Ready.furnished {a b : FileTree} {p : String} {r : Role} (h : Ready a p r)
    (hab : Furnished a b) : Ready b p r := by
  obtain ⟨hway, q, hq, hrouted⟩ := h
  refine ⟨hab.keeps.hasDirectory hway, q, hab.namesFile hq, hrouted.imp_right ?_⟩
  rintro ⟨target, q', htarget, hway', hq', hapart⟩
  exact ⟨target, q', htarget, hab.keeps.hasDirectory hway', hab.namesFile hq', hapart⟩

/-- Writing a file that is ready gets through and makes no directory. -/
theorem Ready.writeFile {base : String} {f : GeneratedFile} {d : Desk}
    (ht : d.tree.isDirectory = true) (h : Ready d.tree (Path.join base f.path) f.role) :
    ∃ d', (SpringScaffold.writeFile base f : Attempt (StateM Desk) Unit).run.run d = (.ok (), d') ∧
      SameDirectories d.tree d'.tree := by
  obtain ⟨hway, q, hq, hrouted⟩ := h
  obtain ⟨hfile, hsame⟩ := hq.set ht f.content.toUTF8
  rw [writeFile_run, hway.createDirectories]
  dsimp only
  rw [hq.write]
  dsimp only
  rw [route_run]
  rcases hrouted with hstay | ⟨target, q', htarget, hway', hq', hbelow, habove⟩
  · rw [hstay]
    exact ⟨_, rfl, hsame⟩
  · obtain ⟨t', hmove, hmoved⟩ := (hsame.furnished.namesFile hq).rename
      (hsame.furnished.namesFile hq') hfile hbelow habove
    rw [htarget]
    dsimp only
    rw [moveInto_run]
    dsimp only
    rw [(hsame.furnished.keeps.hasDirectory hway').createDirectories]
    dsimp only
    rw [hmove]
    exact ⟨_, rfl, hsame.trans hmoved.sameDirectories⟩

theorem Ready.writeFiles {base : String} {files : List GeneratedFile} {d : Desk}
    (ht : d.tree.isDirectory = true)
    (h : ∀ f ∈ files, Ready d.tree (Path.join base f.path) f.role) :
    ∃ d', (SpringScaffold.writeFiles base files : Attempt (StateM Desk) Unit).run.run d =
        (.ok (), d') ∧ SameDirectories d.tree d'.tree := by
  induction files generalizing d with
  | nil => exact ⟨d, rfl, .refl _⟩
  | cons f rest ih =>
    obtain ⟨d', hrun, hsame⟩ := (h f List.mem_cons_self).writeFile ht
    have hrest : ∀ g ∈ rest, Ready d'.tree (Path.join base g.path) g.role :=
      fun g hg => (h g (List.mem_cons_of_mem f hg)).furnished hsame.furnished
    obtain ⟨d'', hrun', hsame'⟩ := ih (hsame.furnished.keeps.isDirectory ht) hrest
    refine ⟨d'', ?_, hsame.trans hsame'⟩
    rw [SpringScaffold.writeFiles, run_bind, hrun]
    exact hrun'

/-- The file has a name with a dot, and the directories that lead to it below the output directory
have not. -/
def GeneratedFile.IsSource (f : GeneratedFile) : Prop :=
  ∃ way n, Path.steps f.path = way ++ [n] ∧ n ≠ ".." ∧ '.' ∈ n.toList ∧ ∀ d ∈ way, '.' ∉ d.toList

theorem GeneratedFile.IsSource.leadsDown {f : GeneratedFile} (h : f.IsSource) : f.LeadsDown := by
  obtain ⟨way, n, hsteps, hup, -, hway⟩ := h
  rw [LeadsDown, hsteps, List.mem_append, List.mem_singleton]
  exact ⟨by simp, not_or.2 ⟨fun hd => hway _ hd (by decide), hup.symm⟩⟩

/-- Once a file is routed it is ready to be written again. -/
theorem Routes.ready {p : String} {r : Role} {before after : FileTree} {result : Option String}
    (h : Routes p r before (.ok result) after) (ht : before.isDirectory = true) {base : String}
    {top way : List String} {name : String}
    (hbase : before.enter [] (Path.steps base) = .ok top)
    (hsteps : Path.steps p = Path.steps base ++ way ++ [name]) (hway : ∀ d ∈ way, '.' ∉ d.toList)
    (hdir : before.HasDirectory ((Path.parent? p).getD "")) {q : List String} {content : ByteArray}
    (hq : before.NamesFile p q) (hfile : before.get? q = some (.file content)) :
    Ready after p r ∧ Furnished before after := by
  cases h with
  | stays hstay => exact ⟨⟨hdir, q, hq, .inl hstay⟩, (SameDirectories.refl _).furnished⟩
  | @moved target made _ htarget hmake hmove =>
    have hgrown := createDirectories_grown before ((Path.parent? target).getD "")
    have hmade := createDirectories_hasDirectory (p := (Path.parent? target).getD "") ht
    rw [hmake] at hgrown hmade
    dsimp only at hgrown hmade
    obtain ⟨sub, m, his⟩ := isTarget_of_destination htarget
    obtain ⟨s, e, moved, hs, he, -, hsource, haddress, hslash, hmoved⟩ := his.moved hmove
    have hsub : ∀ d ∈ way ++ [sub], '.' ∉ d.toList := by
      intro d hd
      rcases List.mem_append.1 hd with hd | hd
      · exact hway d hd
      · rw [List.mem_singleton.1 hd]
        rcases his.family with rfl | rfl <;> decide
    have hparent :
        Path.steps ((Path.parent? target).getD "") = Path.steps base ++ (way ++ [sub]) := by
      rw [Path.steps_parent, his.steps, Path.steps_parent, hsteps, List.dropLast_concat,
        List.append_cons, List.dropLast_concat, List.append_assoc]
    have hfurnished := hgrown.furnished ht hbase hparent hsub
    -- what is moved is the file at the end of the path
    obtain ⟨place, n, hplace, hn, -, hdot, rfl, -⟩ := hfurnished.namesFile hq
    obtain rfl : place = s := Except.ok.inj (hplace.symm.trans hs)
    obtain rfl : m = n := by
      rw [Place.address_of_named hn] at hsource
      simpa using hsource.symm
    have hcontent := hgrown.kept (node?_of_get? hfile)
    rw [node, node?_eq_file, hmoved.found, Option.some.injEq] at hcontent
    subst hcontent
    have hsame := hmoved.sameDirectories
    have hfree : made.node? (place.parent ++ [sub, m]) ≠ some .directory := by
      intro hd
      cases hmoved.alike hd
    rw [List.append_cons place.parent] at haddress hfree
    have hnames := NamesFile.of_address (hgrown.keepsDirectories.isDirectory ht) he haddress
      (hslash rfl).2 hdot hfree
    rw [← List.append_cons place.parent] at hnames
    have hall := hfurnished.trans hsame.furnished
    exact ⟨⟨hall.keeps.hasDirectory hdir, _, hall.namesFile hq, .inr ⟨target, _, htarget,
      hsame.furnished.keeps.hasDirectory (hmade rfl), hsame.furnished.namesFile hnames,
      hmoved.apart⟩⟩, hall⟩

theorem writeFile_eq_ok {base : String} {f : GeneratedFile} {d d' : Desk}
    (h : (writeFile base f : Attempt (StateM Desk) Unit).run.run d = (.ok (), d')) :
    ∃ made written target routed,
      d.tree.createDirectories ((Path.parent? (Path.join base f.path)).getD "") = (.ok (), made) ∧
      made.write (Path.join base f.path) f.content = .ok written ∧
      (route (Path.join base f.path) f.role : StateM Desk _).run { d with tree := written } =
        (.ok target, routed) ∧ routed.tree = d'.tree := by
  rw [writeFile_run] at h
  cases hmake : d.tree.createDirectories ((Path.parent? (Path.join base f.path)).getD "") with
  | mk result made =>
  rw [hmake] at h
  cases result with
  | error e => cases h
  | ok u =>
  dsimp only at h
  cases hwrite : made.write (Path.join base f.path) f.content with
  | error e =>
    rw [hwrite] at h
    cases h
  | ok written =>
  rw [hwrite] at h
  dsimp only at h
  generalize hroute : (route (Path.join base f.path) f.role : StateM Desk _).run _ = out at h
  obtain ⟨result, routed⟩ := out
  cases result with
  | error e => cases h
  | ok target =>
    obtain rfl := (Prod.mk.inj h).2
    exact ⟨made, written, target, routed, rfl, hwrite, hroute, rfl⟩

/-- Once a file is written it is ready to be written again, and the directories that were made on
the way have names without a dot if the output directory was there. -/
theorem writeFile_ready {base : String} {f : GeneratedFile} (hf : f.IsSource) {d d' : Desk}
    (ht : d.tree.isDirectory = true)
    (h : (writeFile base f : Attempt (StateM Desk) Unit).run.run d = (.ok (), d')) :
    Ready d'.tree (Path.join base f.path) f.role ∧
      ∀ top, d.tree.enter [] (Path.steps base) = .ok top → Furnished d.tree d'.tree := by
  obtain ⟨way, name, hsteps, -, hdot, hway⟩ := hf
  have hpath : Path.steps (Path.join base f.path) = Path.steps base ++ way ++ [name] := by
    rw [Path.steps_join, hsteps, List.append_assoc]
  have hparent : Path.steps ((Path.parent? (Path.join base f.path)).getD "") =
      Path.steps base ++ way := by rw [Path.steps_parent, hpath, List.dropLast_concat]
  have hgrown := createDirectories_grown d.tree ((Path.parent? (Path.join base f.path)).getD "")
  have hmade :=
    createDirectories_hasDirectory (p := (Path.parent? (Path.join base f.path)).getD "") ht
  obtain ⟨made, written, target, routed, hmake, hwrite, hrun, htree⟩ := writeFile_eq_ok h
  rw [hmake] at hgrown hmade
  dsimp only at hgrown hmade
  have ht' := hgrown.keepsDirectories.isDirectory ht
  obtain ⟨place, n, hplace, hn, hslash, hfree, rfl⟩ := write_eq_ok hwrite
  obtain ⟨before, hbefore, -⟩ := locate_named hplace hn
  obtain ⟨-, hname⟩ := List.append_inj' (hpath.symm.trans hbefore) rfl
  obtain rfl : name = n := List.singleton_inj.1 hname
  rw [Place.address_of_named hn] at hfree
  have hnames : made.NamesFile (Path.join base f.path) (place.parent ++ [name]) :=
    ⟨place, name, hplace, hn, hslash, hdot, rfl, hfree⟩
  obtain ⟨hfile, hsame⟩ := hnames.set ht' f.content.toUTF8
  generalize made.set _ _ = written at hrun hfile hsame
  -- the file is routed from where it was written
  obtain ⟨place', henter⟩ := (hmade rfl).enter
  rw [hparent] at henter
  obtain ⟨top, htop, -⟩ := enter_append_eq_ok.1 henter
  have hroute := route_routes (Path.join base f.path) f.role ⟨written, d.notes⟩
  rw [hrun, htree] at hroute
  obtain ⟨hready, hfurnished⟩ := hroute.ready (hsame.furnished.keeps.isDirectory ht')
    (hsame.furnished.keeps.enter htop) hpath hway
    (hsame.furnished.keeps.hasDirectory (hmade rfl)) (hsame.furnished.namesFile hnames) hfile
  exact ⟨hready, fun top htop =>
    ((hgrown.furnished ht htop hparent hway).trans hsame.furnished).trans hfurnished⟩

/-- After a run that gets through, every file is ready. -/
theorem writeFiles_ready {base : String} {files : List GeneratedFile}
    (hfiles : ∀ f ∈ files, f.IsSource) {d d' : Desk} (ht : d.tree.isDirectory = true)
    (h : (writeFiles base files : Attempt (StateM Desk) Unit).run.run d = (.ok (), d')) :
    (∀ f ∈ files, Ready d'.tree (Path.join base f.path) f.role) ∧
      ∀ top, d.tree.enter [] (Path.steps base) = .ok top → Furnished d.tree d'.tree := by
  induction files generalizing d with
  | nil =>
    obtain rfl := (Prod.mk.inj h).2
    exact ⟨by simp, fun _ _ => (SameDirectories.refl _).furnished⟩
  | cons f rest ih =>
    have hf := hfiles f List.mem_cons_self
    rw [writeFiles, run_bind] at h
    cases hrun : (writeFile base f : Attempt (StateM Desk) Unit).run.run d with
    | mk result d₁ =>
    rw [hrun] at h
    cases result with
    | error e => cases h
    | ok u =>
    obtain ⟨hready, hfirst⟩ := writeFile_ready hf ht hrun
    have hstep := writeFile_effect base hf.leadsDown ht
    rw [hrun] at hstep
    obtain ⟨hkeeps, top, htop, -⟩ := hstep
    obtain ⟨hrest, hlater⟩ := ih (fun g hg => hfiles g (List.mem_cons_of_mem f hg))
      (hkeeps.isDirectory ht) h
    -- the output directory is there from the first file on
    refine ⟨?_, fun top' htop' => (hfirst top' htop').trans (hlater top htop)⟩
    rintro g hg
    rcases List.mem_cons.1 hg with rfl | hg
    · exact hready.furnished (hlater top htop)
    · exact hrest g hg

/-! ### The same deliveries again -/

/-- What deliveries leave at a place does not depend on what was there, unless they leave it
alone. -/
theorem Delivery.applyAll_const_or (top : List String) (deliveries : List Delivery)
    (q : List String) :
    (∃ v, ∀ files, applyAll top deliveries files q = v) ∨
      ∀ files, applyAll top deliveries files q = files q := by
  induction deliveries with
  | nil => exact .inr fun _ => rfl
  | cons dl rest ih =>
    rcases ih with ⟨v, hv⟩ | hsame
    · exact .inl ⟨v, fun files => hv _⟩
    · by_cases hlast : q = top ++ dl.last
      · exact .inl ⟨_, fun files => (hsame _).trans (hlast ▸ apply_last)⟩
      · by_cases hfirst : q = top ++ dl.first
        · exact .inl ⟨_, fun files => (hsame _).trans (apply_eq_none (.inl hfirst) hlast)⟩
        · exact .inr fun files => (hsame _).trans (apply_of_ne hfirst hlast)

theorem Delivery.applyAll_idem (top : List String) (deliveries : List Delivery)
    (files : List String → Option ByteArray) :
    applyAll top deliveries (applyAll top deliveries files) = applyAll top deliveries files := by
  funext q
  rcases applyAll_const_or top deliveries q with ⟨v, hv⟩ | hsame
  · rw [hv, hv]
  · exact hsame _

/-- Writing the files again gets through and leaves everything as it is. -/
theorem writeFiles_again {base : String} {files : List GeneratedFile}
    (hfiles : ∀ f ∈ files, f.IsSource) {d d' : Desk} (ht : d.tree.isDirectory = true)
    (h : (writeFiles base files : Attempt (StateM Desk) Unit).run.run d = (.ok (), d')) :
    ∃ d'', (writeFiles base files : Attempt (StateM Desk) Unit).run.run d' = (.ok (), d'') ∧
      ∀ q, d''.tree.node? q = d'.tree.node? q := by
  have hdown : ∀ f ∈ files, f.LeadsDown := fun f hf => (hfiles f hf).leadsDown
  have heffect := writeFiles_effect base hdown ht
  rw [h] at heffect
  have ht' := heffect.keeps.isDirectory ht
  obtain ⟨d'', hrun, hsame⟩ := Ready.writeFiles ht' (writeFiles_ready hfiles ht h).1
  refine ⟨d'', hrun, fun q => (hsame.node?_eq ?_ q).symm⟩
  have heffect' := writeFiles_effect base hdown ht'
  rw [hrun] at heffect'
  by_cases hne : files = []
  · subst hne
    rw [(Prod.mk.inj hrun).2]
  · obtain ⟨top, htop⟩ := heffect.based rfl hne
    rw [heffect'.contents rfl top (hsame.furnished.keeps.enter htop), heffect.contents rfl top htop,
      Delivery.applyAll_idem]

namespace Spec

theorem isSource_packageFile {package n : String} (hn : IsSourceName n) (hdot : '.' ∈ n.toList)
    {path : String} (hpath : path = packageDirectory package ++ "/" ++ n) (role : Role)
    (content : String) : GeneratedFile.IsSource ⟨path, role, content⟩ := by
  refine ⟨packagePlace package, n, ?_, hn.isName.2.2.2, hdot, fun _ => dot_notMem_packagePlace⟩
  rw [hpath]
  exact steps_packageFile package hn

theorem isSource_generate {s : Spec} (c : Config)
    (hclasses : ∀ m ∈ s.models, '/' ∉ m.className.toList) : ∀ f ∈ s.generate c, f.IsSource := by
  intro f hf
  rcases List.mem_append.1 hf with hf | hf
  · obtain ⟨g, -, hf⟩ := List.mem_flatMap.1 hf
    have hname : ∀ ending, IsSourceName ending → IsSourceName (g.name.pascal ++ ending) :=
      fun ending => .append (g.name.notMem_pascal Text.isSign_slash)
    rw [groupFiles, List.mem_pair] at hf
    rcases hf with rfl | rfl
    · exact isSource_packageFile (hname "Controller.java" ⟨by decide, by decide⟩) (by simp)
        (String.append_assoc ..) _ _
    · exact isSource_packageFile (hname "Service.java" ⟨by decide, by decide⟩) (by simp)
        (String.append_assoc ..) _ _
  · obtain ⟨m, hm, rfl⟩ := List.mem_map.1 hf
    exact isSource_packageFile (.append (hclasses m hm) ⟨by decide, by decide⟩) (by simp)
      (String.append_assoc ..) _ _

/-- Generating again into the tree that a run left gets through and changes nothing, whatever files
share a place. -/
theorem generate_again (s : Spec) (c : Config) (base : String) (d : Desk)
    (hclasses : ∀ m ∈ s.models, '/' ∉ m.className.toList) (ht : d.tree.isDirectory = true)
    (hok : ((writeFiles base (s.generate c) : Attempt (StateM Desk) Unit).run.run d).1 = .ok ()) :
    let first := ((writeFiles base (s.generate c) : Attempt (StateM Desk) Unit).run.run d).2
    let again := (writeFiles base (s.generate c) : Attempt (StateM Desk) Unit).run.run first
    again.1 = .ok () ∧ ∀ q, again.2.tree.node? q = first.tree.node? q := by
  obtain ⟨d'', hrun, hsame⟩ :=
    writeFiles_again (isSource_generate c hclasses) ht (Prod.ext hok rfl)
  intro first again
  rw [show again = (.ok (), d'') from hrun]
  exact ⟨rfl, hsame⟩

/-- The list of orders with a model that has the name of the controller. -/
def controllerPage : Spec :=
  { orderPage with models := orderPage.models.map fun m => { m with name := "OrderController" } }

def controllerConfig : Config := { orderConfig with modelPackage := "shop.controller" }

theorem controllerPage_again :
    let s := controllerPage.postProcess .default .tag
    let first := (writeFiles "" (s.generate controllerConfig) : Attempt (StateM Desk) Unit).run.run
      ⟨.empty, []⟩
    let again := (writeFiles "" (s.generate controllerConfig) : Attempt (StateM Desk) Unit).run.run
      first.2
    ((∀ m ∈ s.models, '/' ∉ m.className.toList) ∧ FileTree.empty.isDirectory = true ∧
      first.1 = .ok ()) ∧
    ¬ ((s.deliveries controllerConfig).map (·.last)).Nodup ∧
    again.1 = .ok () ∧ ∀ q, again.2.tree.node? q = first.2.tree.node? q := by
  have hclasses : ∀ m ∈ (controllerPage.postProcess .default .tag).models,
      '/' ∉ m.className.toList := by decide +kernel
  have hok :
      ((writeFiles "" ((controllerPage.postProcess .default .tag).generate controllerConfig) :
        Attempt (StateM Desk) Unit).run.run ⟨.empty, []⟩).1 = .ok () := by decide +kernel
  have hshared : ¬ (((controllerPage.postProcess .default .tag).deliveries controllerConfig).map
      (·.last)).Nodup := by decide +kernel
  have hagain := generate_again _ controllerConfig "" ⟨.empty, []⟩ hclasses rfl hok
  exact ⟨⟨hclasses, rfl, hok⟩, hshared, hagain⟩

end Spec

end SpringScaffold
