import FeatureDocs.Proofs.Disk.Edited
import FeatureDocs.Proofs.SiteBuilder
import FeatureDocs.Proofs.Tree.Cut

/-!
# One file does not disturb the rest

Two runs over disks that differ in one file visit the same entries but for that file, and read the
same texts elsewhere. What they make of the file is enclosed, directory by directory, by what comes
of the entries before and after, and that is the same in both runs. Hence both trees are the same
once the node of the file is cut out of them, and an error outside the file is met with or without
it.

A root that leads through the file is the one case in which the runs fail differently: what comes
behind the file is sought in no directory as long as it is there, and nowhere when it is gone.

## Main definitions

* `TreeBuilder.Level`: what comes of the entries beside an entry

## Main results

* `TreeBuilder.buildEntry_edited`: both builds enclose what comes of the file by the same levels
* `SiteBuilder.one_file_disturbs_no_other`: the two runs
-/

namespace FeatureDocs

namespace TreeBuilder

variable (b : TreeBuilder)

/-- What a build makes of the entries of a directory before and after one of them. -/
structure Level where
  path : Path
  before : Except BuildError (List DocTree)
  after : Except BuildError (List DocTree)

/-- What comes of a directory, by what comes of its entries; the first error counts. -/
def Level.enclose (level : Level) (inner : Except BuildError (List DocTree)) :
    Except BuildError (List DocTree) := do
  let before ← level.before
  let inside ← inner
  let after ← level.after
  return [b.directoryNode level.path (before ++ inside ++ after)]

/-- What comes of an entry far below, level by level, the innermost last. -/
def encloseAll (levels : List Level) (inner : Except BuildError (List DocTree)) :
    Except BuildError (List DocTree) :=
  levels.foldr (Level.enclose b) inner

/-! ## Levels -/

/-- An error is not overcome. -/
theorem encloseAll_error (levels : List Level) (e : BuildError) :
    ∃ e', b.encloseAll levels (.error e) = .error e' := by
  induction levels with
  | nil => exact ⟨e, rfl⟩
  | cons level levels ih =>
    obtain ⟨e', h⟩ := ih
    change ∃ e', level.enclose b (b.encloseAll levels (.error e)) = .error e'
    rw [h, Level.enclose]
    cases level.before with
    | error cause => exact ⟨cause, rfl⟩
    | ok before => exact ⟨e', rfl⟩

/-- Levels either fail, or put what comes of the entry in its surroundings, whatever that is. -/
theorem encloseAll_ok (levels : List Level) :
    (∃ e, ∀ trees, b.encloseAll levels (.ok trees) = .error e) ∨
      ∃ around, ∀ trees, b.encloseAll levels (.ok trees) =
        .ok (DocTree.Surroundings.fill around trees) := by
  induction levels with
  | nil => exact Or.inr ⟨[], fun _ => rfl⟩
  | cons level levels ih =>
    have hcons : ∀ trees, b.encloseAll (level :: levels) (.ok trees) =
        level.enclose b (b.encloseAll levels (.ok trees)) := fun _ => rfl
    simp only [hcons, Level.enclose]
    -- The entries before come first; their errors hide all others.
    cases level.before with
    | error cause => exact Or.inl ⟨cause, fun _ => rfl⟩
    | ok before =>
      rcases ih with ⟨e, h⟩ | ⟨around, h⟩
      · exact Or.inl ⟨e, fun trees => by rw [h]; rfl⟩
      · cases level.after with
        | error cause => exact Or.inl ⟨cause, fun trees => by rw [h]; rfl⟩
        | ok after =>
          refine Or.inr ⟨⟨b.place level.path, (b.seenFromBase level.path).names, before, after⟩ ::
            around, fun trees => ?_⟩
          rw [h]
          rfl

variable {b} {disk disk' : Disk}

theorem buildEntries_append (p : Path) (entries more : List (Name × Entry)) :
    b.buildEntries disk p (entries ++ more) = (do
      let trees ← b.buildEntries disk p entries
      let others ← b.buildEntries disk p more
      return trees ++ others) := by
  induction entries with
  | nil =>
    rw [List.nil_append, buildEntries]
    cases b.buildEntries disk p more <;> rfl
  | cons entry entries ih =>
    rw [List.cons_append, buildEntries, buildEntries, ih]
    cases b.buildNamed disk p entry with
    | error e => rfl
    | ok tree =>
      cases b.buildEntries disk p entries with
      | error e => rfl
      | ok trees => cases b.buildEntries disk p more <;> rfl

/-- Entries in the middle of a directory are enclosed by one level. -/
theorem buildEntry_middle (p : Path) (before middle after : List (Name × Entry)) :
    (b.buildEntry disk p (.directory (before ++ middle ++ after))).map ([·]) =
      Level.enclose b ⟨p, b.buildEntries disk p before, b.buildEntries disk p after⟩
        (b.buildEntries disk p middle) := by
  rw [buildEntry, buildEntries_append, buildEntries_append, Level.enclose]
  cases b.buildEntries disk p before with
  | error e => rfl
  | ok trees =>
    cases b.buildEntries disk p middle with
    | error e => rfl
    | ok inner => cases b.buildEntries disk p after <;> rfl

/-! ## Entries that are the same in both runs -/

theorem buildFile_congr {p : Path} {text text' : Except OsError String}
    (h : text.toOption = text'.toOption) : b.buildFile p text = b.buildFile p text' := by
  rw [buildFile, buildFile, document?, document?, h]

theorem buildEntries_congr {p : Path} {entries : List (Name × Entry)}
    (h : ∀ n e, (n, e) ∈ entries →
      b.buildEntry disk (p.entry n) e = b.buildEntry disk' (p.entry n) e) :
    b.buildEntries disk p entries = b.buildEntries disk' p entries := by
  induction entries with
  | nil => rfl
  | cons entry entries ih =>
    obtain ⟨n, e⟩ := entry
    rw [buildEntries, buildEntries, buildNamed, buildNamed, h n e List.mem_cons_self,
      ih fun m d hd => h m d (List.mem_cons_of_mem _ hd)]

/-- An entry below which the same texts are read becomes the same tree. -/
theorem buildEntry_congr {p : Path} {e : Entry}
    (h : ∀ x ∈ e.descendants,
      (disk.readText (p.along x.1)).toOption = (disk'.readText (p.along x.1)).toOption) :
    b.buildEntry disk p e = b.buildEntry disk' p e := by
  induction e using Entry.induction generalizing p with
  | file content => exact buildFile_congr (h ([], .file content) (by simp [Entry.descendants]))
  | link target => exact buildFile_congr (h ([], .link target) (by simp [Entry.descendants]))
  | denied operation =>
    cases operation with
    | read => exact buildFile_congr (h ([], .denied .read) (by simp [Entry.descendants]))
    | inspect | list => rfl
  | directory entries ih =>
    rw [buildEntry, buildEntry]
    congr 1
    refine buildEntries_congr fun n e hmem => ih n e hmem fun x hx => ?_
    exact h (n :: x.1, x.2) (Entry.mem_descendants_directory hmem hx)

/-! ## Entries above the file -/

theorem buildEntries_singleton (p : Path) (n : Name) (e : Entry) :
    b.buildEntries disk p [(n, e)] = (b.buildEntry disk (p.entry n) e).map ([·]) := by
  rw [buildEntries, buildNamed]
  cases b.buildEntry disk (p.entry n) e <;> rfl

/-- Entries of a directory that do not have the first name on the way to the file. -/
theorem buildEntries_beside {p : Path} {entries some : List (Name × Entry)} {k : Name}
    {ns : List Name}
    (hsame : ∀ x ∈ (Entry.directory entries).descendants, x.1 ≠ k :: ns →
      (disk.readText (p.along x.1)).toOption = (disk'.readText (p.along x.1)).toOption)
    (hsome : some ⊆ entries) (hk : k ∉ some.map Prod.fst) :
    b.buildEntries disk p some = b.buildEntries disk' p some := by
  refine buildEntries_congr fun m e hmem => buildEntry_congr fun x hx => ?_
  refine hsame _ (Entry.mem_descendants_directory (hsome hmem) hx) fun heq => hk ?_
  rw [← (List.cons.inj heq).1]
  exact List.mem_map.mpr ⟨(m, e), hmem, rfl⟩

/-- **What comes of the file is enclosed by the same levels in both runs.** -/
theorem buildEntry_edited {n : Name} {content : List UInt8} {new : List (Name × Entry)}
    {dir : List Name} {e e' : Entry} (h : Entry.Edited [(n, .file content)] new dir e e')
    (hwf : e.wellFormed = true) {p : Path}
    (hsame : ∀ x ∈ e.descendants, x.1 ≠ dir ++ [n] →
      (disk.readText (p.along x.1)).toOption = (disk'.readText (p.along x.1)).toOption) :
    ∃ levels,
      (b.buildEntry disk p e).map ([·]) =
        b.encloseAll levels (b.buildEntries disk (p.along dir) [(n, .file content)]) ∧
      (b.buildEntry disk' p e').map ([·]) =
        b.encloseAll levels (b.buildEntries disk' (p.along dir) new) := by
  -- Each directory on the way to the file is one level.
  induction h generalizing p with
  | here before after =>
    have hnames := hwf
    rw [List.append_assoc, List.singleton_append] at hnames
    obtain ⟨hbefore, hafter⟩ := Entry.not_mem_of_wellFormed hnames
    have hfirst := buildEntries_beside (b := b) hsame (by simp) hbefore
    have hlast := buildEntries_beside (b := b) hsame (by simp) hafter
    refine ⟨[⟨p, b.buildEntries disk p before, b.buildEntries disk p after⟩],
      buildEntry_middle p before _ after, ?_⟩
    rw [buildEntry_middle, ← hfirst, ← hlast]
    rfl
  | @inside before after k dir d d' hd ih =>
    have hmem : (k, d) ∈ before ++ (k, d) :: after := by simp
    obtain ⟨hbefore, hafter⟩ := Entry.not_mem_of_wellFormed hwf
    have hfirst := buildEntries_beside (b := b) hsame (by simp) hbefore
    have hlast := buildEntries_beside (b := b) hsame (by simp) hafter
    -- Below the next directory the names go on from its path.
    have hdeep : ∀ x ∈ d.descendants, x.1 ≠ dir ++ [n] →
        (disk.readText ((p.entry k).along x.1)).toOption =
          (disk'.readText ((p.entry k).along x.1)).toOption := by
      intro x hx hne
      exact hsame _ (Entry.mem_descendants_directory hmem hx) (by simpa using hne)
    obtain ⟨levels, hold, hnew⟩ := ih (Entry.wellFormed_entry hwf hmem).2 hdeep
    refine ⟨⟨p, b.buildEntries disk p before, b.buildEntries disk p after⟩ :: levels, ?_, ?_⟩
    · rw [List.append_cons, buildEntry_middle, buildEntries_singleton, hold]
      rfl
    · rw [List.append_cons, buildEntry_middle, buildEntries_singleton, hnew, ← hfirst, ← hlast]
      rfl

/-! ## Two builds -/

section

variable {n : Name} {content : List UInt8} {new : List (Name × Entry)} {dir : List Name}

/-- The same texts are read below a path, but for that of the file. -/
theorem same_texts (h : disk.Edited [(n, .file content)] new dir disk')
    (hdisk : disk.root.wellFormed = true) (hnew : ∀ x ∈ new, ∃ c, x = (n, .file c))
    (hlinks : disk.NoLinkLeadsTo (dir ++ [n])) {p : Path} {start : List Name} {e : Entry}
    (hp : disk.inspect p = .ok (start, e)) :
    ∀ x ∈ e.descendants, start ++ x.1 ≠ dir ++ [n] →
      (disk.readText (p.along x.1)).toOption = (disk'.readText (p.along x.1)).toOption := by
  intro x hx hne
  obtain ⟨hfinds, -⟩ := Disk.inspect_eq_ok_iff.mp hp
  have hwf := Entry.wellFormed_descend hdisk hfinds.2
  exact h.readText hdisk hnew (hlinks.locate_ne (hfinds.along hwf hx) hne)

/-- The names from a directory above the file lead on to it. -/
theorem finds_file (hdisk : disk.root.wellFormed = true) {p : Path} {start rest : List Name}
    {e e' : Entry} (hdir : dir = start ++ rest) (hp : disk.inspect p = .ok (start, e))
    (hedit : Entry.Edited [(n, .file content)] new rest e e') :
    disk.Finds (p.along (rest ++ [n])) (dir ++ [n]) (.file content) := by
  obtain ⟨hfinds, -⟩ := Disk.inspect_eq_ok_iff.mp hp
  have hwf := Entry.wellFormed_descend hdisk hfinds.2
  have hfile := (Entry.mem_descendants_iff hwf).mpr (hedit.descend_file hwf)
  rw [hdir, List.append_assoc]
  exact hfinds.along hwf hfile

/-- The builds of a path that leads to a directory above the file. -/
theorem build_above (h : disk.Edited [(n, .file content)] new dir disk')
    (hdisk : disk.root.wellFormed = true) (hnew : ∀ x ∈ new, ∃ c, x = (n, .file c))
    (hlinks : disk.NoLinkLeadsTo (dir ++ [n])) {p : Path} {start rest : List Name} {e e' : Entry}
    (hdir : dir = start ++ rest) (hp : disk.inspect p = .ok (start, e))
    (hp' : disk'.inspect p = .ok (start, e'))
    (hedit : Entry.Edited [(n, .file content)] new rest e e') :
    ∃ levels,
      (b.build disk p).map ([·]) =
        b.encloseAll levels ((b.buildFile (p.along (rest ++ [n]))
          (disk.readText (p.along (rest ++ [n])))).map ([·])) ∧
      (b.build disk' p).map ([·]) =
        b.encloseAll levels (b.buildEntries disk' (p.along rest) new) := by
  obtain ⟨hfinds, -⟩ := Disk.inspect_eq_ok_iff.mp hp
  have hwf := Entry.wellFormed_descend hdisk hfinds.2
  have hsame : ∀ x ∈ e.descendants, x.1 ≠ rest ++ [n] →
      (disk.readText (p.along x.1)).toOption = (disk'.readText (p.along x.1)).toOption := by
    intro x hx hne
    refine same_texts h hdisk hnew hlinks hp x hx ?_
    rwa [hdir, List.append_assoc, Ne, List.append_cancel_left_eq]
  obtain ⟨levels, hold, hnew⟩ := buildEntry_edited (b := b) hedit hwf hsame
  refine ⟨levels, ?_, ?_⟩
  · rw [build_of_inspect hp, hold, buildEntries_singleton]
    simp only [Path.along, List.foldl_append, List.foldl_cons, List.foldl_nil]
    rfl
  · rw [build_of_inspect hp', hnew]

/-- The builds of a path that leads to anything but the file and the directories above it. -/
theorem build_elsewhere (h : disk.Edited [(n, .file content)] new dir disk')
    (hdisk : disk.root.wellFormed = true) (hnew : ∀ x ∈ new, ∃ c, x = (n, .file c))
    (hlinks : disk.NoLinkLeadsTo (dir ++ [n])) {p : Path} {start : List Name} {e : Entry}
    (hstart : ¬ start <+: dir ++ [n]) (hp : disk.inspect p = .ok (start, e))
    (hp' : disk'.inspect p = .ok (start, e)) : b.build disk p = b.build disk' p := by
  rw [build_of_inspect hp, build_of_inspect hp']
  refine buildEntry_congr fun x hx => same_texts h hdisk hnew hlinks hp x hx fun heq => ?_
  exact hstart ⟨x.1, heq⟩

end

/-! ## The node of the file -/

/-- A place has one node at most. -/
theorem nodesAt_eq_singleton {p : Path} {place : List Name} {tree node : DocTree}
    (hdisk : disk.root.wellFormed = true) (h : b.build disk p = .ok tree)
    (hnode : node ∈ tree.nodes) (hplace : disk.leadsTo place node.place.path = true) :
    tree.nodesAt (disk.leadsTo place) = [node] := by
  have hplaces : (tree.nodes.map fun node => disk.locate false node.place.path).Nodup := by
    have hnodup := Disk.nodup_places (p := p) hdisk
    rwa [← paths_of_nodes hdisk h, List.map_map] at hnodup
  rw [Disk.leadsTo_iff] at hplace
  obtain ⟨before, after, hnodes⟩ := List.append_of_mem hnode
  rw [hnodes, List.map_append, List.map_cons, List.nodup_middle, List.nodup_cons,
    ← List.map_append] at hplaces
  -- No other node leads to the place of this one.
  have hother : ∀ x ∈ before ++ after, disk.leadsTo place x.place.path = false := by
    intro x hx
    rw [← Bool.not_eq_true, Disk.leadsTo_iff]
    intro heq
    exact hplaces.1 (List.mem_map.mpr ⟨x, hx, heq.trans hplace.symm⟩)
  obtain ⟨hbefore, hafter⟩ := List.forall_mem_append.mp hother
  have hnone : ∀ l : List DocTree, (∀ x ∈ l, disk.leadsTo place x.place.path = false) →
      l.filter (fun x => disk.leadsTo place x.place.path) = [] := by
    intro l hl
    rw [List.filter_eq_nil_iff]
    exact fun x hx => by simp [hl x hx]
  rw [DocTree.nodesAt, hnodes, List.filter_append, hnone before hbefore, List.filter_cons,
    hnone after hafter, if_pos (Disk.leadsTo_iff.mpr hplace), List.nil_append]

/-- A place that is not below the root has no node. -/
theorem nodesAt_eq_nil {p : Path} {start place : List Name} {e : Entry} {tree : DocTree}
    (hdisk : disk.root.wellFormed = true) (hp : disk.inspect p = .ok (start, e))
    (hstart : ¬ start <+: place) (h : b.build disk p = .ok tree) :
    tree.nodesAt (disk.leadsTo place) = [] := by
  rw [DocTree.nodesAt, List.filter_eq_nil_iff]
  intro node hnode hplace
  have hvisited : node.place.path ∈ disk.visits p := by
    rw [← paths_of_nodes hdisk h]
    exact List.mem_map_of_mem hnode
  obtain ⟨ns, d, -, -, hfinds⟩ := (Disk.mem_visits_iff hdisk hp).mp hvisited
  rw [Disk.leadsTo_iff, hfinds.1] at hplace
  exact hstart ⟨ns, Except.ok.inj hplace⟩

/-! ## The file with other bytes -/

section

variable {n : Name} {content content' : List UInt8} {dir : List Name}

theorem ok_of_encloseAll {levels : List Level} {inner : Except BuildError DocTree} {tree : DocTree}
    (h : Except.ok [tree] = b.encloseAll levels (inner.map ([·]))) : ∃ x, inner = .ok x := by
  cases inner with
  | error e =>
    obtain ⟨e', he⟩ := b.encloseAll_error levels e
    rw [Except.map, he] at h
    simp at h
  | ok x => exact ⟨x, rfl⟩

/-- Two trees over disks that differ in the bytes of one file: they are the same, and the file is
not in them, or they have the node of the file in the same surroundings. -/
theorem trees_rewritten (h : disk.Edited [(n, .file content)] [(n, .file content')] dir disk')
    (hdisk : disk.root.wellFormed = true) (hlinks : disk.NoLinkLeadsTo (dir ++ [n])) {p : Path}
    {tree tree' : DocTree} (hb : b.build disk p = .ok tree) (hb' : b.build disk' p = .ok tree') :
    (tree = tree' ∧ tree.nodesAt (disk.leadsTo (dir ++ [n])) = []) ∨
      ∃ around q x x', disk.leadsTo (dir ++ [n]) q = true ∧
        b.buildFile q (disk.readText q) = .ok x ∧ b.buildFile q (disk'.readText q) = .ok x' ∧
        [tree] = DocTree.Surroundings.fill around [x] ∧
        [tree'] = DocTree.Surroundings.fill around [x'] := by
  have hnew : ∀ x ∈ [(n, Entry.file content')], ∃ c, x = (n, .file c) := by simp
  cases h.inspect hdisk hnew p with
  | fails hp hp' => simp [build_of_inspect_error hp] at hb
  | @above start rest e e' hdir hp hp' hedit =>
    obtain ⟨levels, hold, hnew⟩ := build_above (b := b) h hdisk hnew hlinks hdir hp hp' hedit
    have hpath : (p.along rest).entry n = p.along (rest ++ [n]) := by simp [Path.along]
    rw [buildEntries_singleton, hpath] at hnew
    rw [hb] at hold
    rw [hb'] at hnew
    -- Both runs succeed, so they succeed on the file, and the levels do not fail.
    obtain ⟨x, hx⟩ := ok_of_encloseAll hold
    obtain ⟨x', hx'⟩ := ok_of_encloseAll hnew
    rw [hx] at hold
    rw [hx'] at hnew
    rcases b.encloseAll_ok levels with ⟨e, hfail⟩ | ⟨around, hfill⟩
    · exact absurd (hold.trans (hfail [x])) (by simp [Except.map])
    · have hplace := Disk.leadsTo_iff.mpr (finds_file hdisk hdir hp hedit).1
      exact Or.inr ⟨around, p.along (rest ++ [n]), x, x', hplace, hx, hx',
        Except.ok.inj (hold.trans (hfill [x])), Except.ok.inj (hnew.trans (hfill [x']))⟩
  | elsewhere hstart hp hp' =>
    have heq := build_elsewhere (b := b) h hdisk hnew hlinks hstart hp hp'
    rw [hb, hb', Except.ok.injEq] at heq
    exact Or.inl ⟨heq, nodesAt_eq_nil hdisk hp hstart hb⟩
  | file hp hp' =>
    rw [List.lookup_cons, beq_self_eq_true] at hp'
    rw [build_of_inspect hp] at hb
    rw [build_of_inspect hp'] at hb'
    exact Or.inr ⟨[], p, tree, tree', Disk.leadsTo_iff.mpr (Disk.inspect_eq_ok_iff.mp hp).1.1, hb,
      hb', rfl, rfl⟩
  | through hnone => simp at hnone

/-- The node of the file, in a run over either disk. -/
theorem node_of_file {p q : Path} {place : List Name} {tree x : DocTree}
    {around : List DocTree.Surroundings} (hdisk : disk.root.wellFormed = true)
    (hb : b.build disk p = .ok tree) (hq : disk.leadsTo place q = true)
    (hx : b.buildFile q (disk.readText q) = .ok x)
    (hfill : [tree] = DocTree.Surroundings.fill around [x]) :
    tree.nodesAt (disk.leadsTo place) = [x] ∧ x.cut (disk.leadsTo place) = [] ∧
      tree.scenariosAt (disk.leadsTo place) = DocTree.scenariosOfAll [x] := by
  have hpath : x.place.path = q := (Prod.mk.inj (place_buildFile hx)).1
  have hnodes := nodes_of_buildFile hx
  have hmem : x ∈ tree.nodes := by
    rw [← DocTree.nodesOfAll_singleton, hfill]
    refine DocTree.Surroundings.mem_nodesOfAll_fill ?_
    rw [DocTree.nodesOfAll_singleton, hnodes]
    exact List.mem_singleton_self x
  have hat := nodesAt_eq_singleton hdisk hb hmem (hpath ▸ hq)
  refine ⟨hat, DocTree.cut_eq_nil (hpath ▸ hq), ?_⟩
  rw [DocTree.scenariosAt, hat, DocTree.scenariosOfAll, DocTree.nodesOfAll_singleton, hnodes]

/-- **Only the file itself tells the runs apart**: the trees are the same without its node, their
blocks are those of the file among others that are the same, and its node has the same path and
name. -/
theorem rewritten_alike (h : disk.Edited [(n, .file content)] [(n, .file content')] dir disk')
    (hdisk : disk.root.wellFormed = true) (hlinks : disk.NoLinkLeadsTo (dir ++ [n])) {p : Path}
    {tree tree' : DocTree} (hb : b.build disk p = .ok tree) (hb' : b.build disk' p = .ok tree') :
    let here := disk.leadsTo (dir ++ [n])
    tree.cut here = tree'.cut here ∧
      (∃ before after, tree.scenarios = before ++ tree.scenariosAt here ++ after ∧
        tree'.scenarios = before ++ tree'.scenariosAt here ++ after) ∧
      (tree.nodesAt here).map (fun node => (node.place.path, node.place.name)) =
        (tree'.nodesAt here).map fun node => (node.place.path, node.place.name) := by
  intro here
  have hdisk' : disk'.root.wellFormed = true := h.root.wellFormed.trans hdisk
  have hhere : disk'.leadsTo = disk.leadsTo := h.leadsTo hdisk (by simp) (by simp)
  rcases trees_rewritten h hdisk hlinks hb hb' with
    ⟨rfl, hnone⟩ | ⟨around, q, x, x', hq, hx, hx', hfill, hfill'⟩
  · refine ⟨rfl, ⟨tree.scenarios, [], ?_⟩, rfl⟩
    simp [DocTree.scenariosAt, here, hnone]
  · obtain ⟨hat, hcut, hown⟩ := node_of_file hdisk hb hq hx hfill
    obtain ⟨hat', hcut', hown'⟩ := node_of_file hdisk' hb' (hhere ▸ hq) hx' hfill'
    rw [hhere] at hat' hcut' hown'
    obtain ⟨before, after, hscenarios⟩ := DocTree.Surroundings.scenariosOfAll_fill around
    refine ⟨?_, ⟨before, after, ?_, ?_⟩, ?_⟩
    · have hsame : DocTree.cutAll here [x] = DocTree.cutAll here [x'] := by
        rw [DocTree.cutAll_singleton, DocTree.cutAll_singleton, hcut, hcut']
      rw [← DocTree.cutAll_singleton, ← DocTree.cutAll_singleton, hfill, hfill']
      exact DocTree.Surroundings.cutAll_fill hsame
    · rw [DocTree.scenarios_eq_scenariosOfAll, hfill, hscenarios, hown]
    · rw [DocTree.scenarios_eq_scenariosOfAll, hfill', hscenarios, hown']
    · simp only [here, hat, hat', List.map_cons, List.map_nil, place_buildFile hx,
        place_buildFile hx']

/-! ## The file without a feature in it -/

/-- Bytes that are no text, or whose text is no feature, make a file without content. -/
theorem buildFile_of_no_feature
    (hbad : (Disk.textOf content).toOption.bind b.grammar = none) (q : Path) :
    b.buildFile q (Disk.textOf content) = .ok (.file (b.place q)) := by
  have hread : (Disk.textOf content).toOption.bind (Document.read? b.grammar b.render) = none := by
    cases htext : (Disk.textOf content).toOption with
    | none => rfl
    | some text =>
      have hparse : b.grammar text = none := by rwa [htext] at hbad
      rw [Option.bind_some, Document.read?, hparse]
      rfl
  rw [buildFile, document?, hread, ite_self]

/-- A root that leads through the file is no directory, and it is nothing once the file is lost. -/
theorem builds_through (h : disk.Edited [(n, .file content)] [] dir disk')
    (hdisk : disk.root.wellFormed = true) {p : Path}
    (hp : disk.LeadsThrough false (dir ++ [n]) p) :
    b.build disk p = .error (.io p .notDirectory) ∧
      b.build disk' p = .error (.io p .notFound) := by
  have hfirst := hp.locate (h.root.descend_file hdisk)
  have hsecond := h.locate_of_leadsThrough hdisk hp
  exact ⟨build_of_inspect_error (Disk.inspect_of_locate_error hfirst),
    build_of_inspect_error (Disk.inspect_of_locate_error hsecond)⟩

/-- **An error is met with the file removed, too**, if the root does not lead through the file. -/
theorem removed_alike (h : disk.Edited [(n, .file content)] [] dir disk')
    (hdisk : disk.root.wellFormed = true) (hlinks : disk.NoLinkLeadsTo (dir ++ [n]))
    (hbad : (Disk.textOf content).toOption.bind b.grammar = none) {p : Path}
    (hthrough : ¬ disk.LeadsThrough false (dir ++ [n]) p) {e : BuildError}
    (hb : b.build disk p = .error e) : b.build disk' p = .error e := by
  have hnew : ∀ x ∈ ([] : List (Name × Entry)), ∃ c, x = (n, .file c) := by simp
  cases h.inspect hdisk hnew p with
  | fails hp hp' =>
    rw [build_of_inspect_error hp] at hb
    rw [build_of_inspect_error hp', hb]
  | @above start rest d d' hdir hp hp' hedit =>
    obtain ⟨levels, hold, hnew⟩ := build_above (b := b) h hdisk hnew hlinks hdir hp hp' hedit
    have hfile := finds_file hdisk hdir hp hedit
    rw [hfile.readText, buildFile_of_no_feature hbad, hb] at hold
    -- The file does not fail, so it is the levels that do.
    rcases b.encloseAll_ok levels with ⟨e', hfail⟩ | ⟨around, hfill⟩
    · obtain rfl : e = e' := by simpa [Except.map] using hold.trans (hfail _)
      have hsecond := hnew.trans (hfail [])
      cases hb' : b.build disk' p with
      | error e'' =>
        rw [hb'] at hsecond
        simpa [Except.map] using hsecond
      | ok tree' => simp [hb', Except.map] at hsecond
    · exact absurd (hold.trans (hfill _)) (by simp [Except.map])
  | elsewhere hstart hp hp' => rw [← build_elsewhere h hdisk hnew hlinks hstart hp hp', hb]
  | file hp hp' =>
    have hfinds := (Disk.inspect_eq_ok_iff.mp hp).1
    rw [build_of_inspect hp, buildEntry, hfinds.readText, buildFile_of_no_feature hbad] at hb
    simp at hb
  | through _ hp => exact absurd hp hthrough

/-- **The node of such a file** has no document, and its write path no ending of pages. -/
theorem nodesAt_of_no_feature (h : disk.Edited [(n, .file content)] new dir disk')
    (hdisk : disk.root.wellFormed = true) (hnew : ∀ x ∈ new, ∃ c, x = (n, .file c))
    (hlinks : disk.NoLinkLeadsTo (dir ++ [n]))
    (hbad : (Disk.textOf content).toOption.bind b.grammar = none) {p : Path}
    {start ms : List Name} {e : Entry} {tree : DocTree} (hp : disk.inspect p = .ok (start, e))
    (hms : start ++ ms = dir ++ [n]) (hb : b.build disk p = .ok tree) :
    tree.nodesAt (disk.leadsTo (dir ++ [n])) = [.file (b.place (p.along ms))] := by
  cases h.inspect hdisk hnew p with
  | fails hp' => simp [hp] at hp'
  | through _ hthrough =>
    have hlocate := hthrough.locate (h.root.descend_file hdisk)
    simp [Disk.inspect_of_locate_error hlocate] at hp
  | @above start' rest d d' hdir hp₁ hp₂ hedit =>
    obtain ⟨rfl, rfl⟩ := Prod.mk.inj (Except.ok.inj (hp.symm.trans hp₁))
    obtain rfl : ms = rest ++ [n] := by
      rwa [hdir, List.append_assoc, List.append_cancel_left_eq] at hms
    obtain ⟨levels, hold, -⟩ := build_above (b := b) h hdisk hnew hlinks hdir hp hp₂ hedit
    have hfile := finds_file hdisk hdir hp hedit
    have hown := buildFile_of_no_feature (b := b) hbad (p.along (rest ++ [n]))
    rw [hfile.readText, hown, hb] at hold
    rcases b.encloseAll_ok levels with ⟨e', hfail⟩ | ⟨around, hfill⟩
    · exact absurd (hold.trans (hfail _)) (by simp [Except.map])
    · rw [← hfile.readText] at hown
      exact (node_of_file hdisk hb (Disk.leadsTo_iff.mpr hfile.1) hown
        (Except.ok.inj (hold.trans (hfill _)))).1
  | elsewhere hstart hp₁ =>
    obtain ⟨rfl, -⟩ := Prod.mk.inj (Except.ok.inj (hp.symm.trans hp₁))
    exact absurd ⟨ms, hms⟩ hstart
  | file hp₁ =>
    obtain ⟨rfl, rfl⟩ := Prod.mk.inj (Except.ok.inj (hp.symm.trans hp₁))
    obtain rfl : ms = [] := List.append_right_eq_self.mp hms
    have hfile := (Disk.inspect_eq_ok_iff.mp hp).1
    have hown := buildFile_of_no_feature (b := b) hbad p
    rw [← hfile.readText] at hown
    -- Nothing surrounds the file if it is the root.
    have hfill : [tree] = DocTree.Surroundings.fill [] [.file (b.place p)] := by
      have htree := hb
      rw [build_of_inspect hp, buildEntry, hown] at htree
      rw [← Except.ok.inj htree]
      rfl
    exact (node_of_file hdisk hb (Disk.leadsTo_iff.mpr hfile.1) hown hfill).1

end

end TreeBuilder

/-- The name of a feature file. -/
def sampleName : Name := Utf8.encode "a.feature".toList

/-- The directory holds a feature file that is no text. -/
def malformedDisk : Disk := sampleDisk [(sampleName, .file [0xFF])]

theorem edited_sampleDisk (old new : List (Name × Entry)) :
    (sampleDisk old).Edited old new [Utf8.encode "d".toList] (sampleDisk new) where
  root := by
    have hdir : Entry.Edited old new [] (.directory ([] ++ old ++ []))
        (.directory ([] ++ new ++ [])) := .here [] []
    simp only [List.nil_append, List.append_nil] at hdir
    exact .inside [] [] _ hdir
  workingDirectory := rfl

theorem noLinkLeadsTo_malformedDisk (place : List Name) : malformedDisk.NoLinkLeadsTo place := by
  refine Disk.noLinkLeadsTo_of_forall (by decide) ?_ place
  simp [malformedDisk, sampleDisk, Entry.descendants, Entry.descendantsOfAll,
    Entry.descendantsNamed]

theorem textOf_malformed : Disk.textOf [0xFF] = .error .notText := by
  have hdecode : Utf8.decode? [0xFF] = none := by decide +kernel
  rw [Disk.textOf, hdecode]

/-- **One file disturbs no other.**

Take a disk, the same disk with other bytes in one file to which no link leads, and the same disk
without that file, and run over all three with one root and one output root. If the first two runs
succeed, the trees are the same once the node of the file is cut out, their blocks are those of the
file among others that are the same, and its node has the same path and name. A root that leads
through the file is no directory, and nothing once the file is removed; runs fail with these errors.
If the bytes are no text, or the grammar refuses it, and the root does not lead through the file, an
error of the run is also met with the file removed; and in a run that succeeds the file is a node
without a document, whose write path has no ending of pages. -/
theorem SiteBuilder.one_file_disturbs_no_other {p : SiteBuilder} {disk rewritten removed : Disk}
    {dir : List Name} {n : Name} {content content' : List UInt8} {root output : Path}
    (hdisk : disk.root.wellFormed = true) (hlinks : disk.NoLinkLeadsTo (dir ++ [n]))
    (hrewritten : disk.Edited [(n, .file content)] [(n, .file content')] dir rewritten)
    (hremoved : disk.Edited [(n, .file content)] [] dir removed) :
    let here := disk.leadsTo (dir ++ [n])
    (∀ site site', p.build disk root output = .ok site →
        p.build rewritten root output = .ok site' →
        site.root.cut here = site'.root.cut here ∧
          (∃ before after, site.root.scenarios = before ++ site.root.scenariosAt here ++ after ∧
            site'.root.scenarios = before ++ site'.root.scenariosAt here ++ after) ∧
          (site.root.nodesAt here).map (fun node => (node.place.path, node.place.name)) =
            (site'.root.nodesAt here).map fun node => (node.place.path, node.place.name)) ∧
      (disk.LeadsThrough false (dir ++ [n]) root →
        p.build disk root output = .error (.io root .notDirectory) ∧
          p.build removed root output = .error (.io root .notFound)) ∧
      ((Disk.textOf content).toOption.bind p.grammar = none →
        (¬ disk.LeadsThrough false (dir ++ [n]) root →
          ∀ e, p.build disk root output = .error e → p.build removed root output = .error e) ∧
          ∀ site start e ms, p.build disk root output = .ok site →
            disk.inspect root = .ok (start, e) → start ++ ms = dir ++ [n] →
            site.root.nodesAt here =
              [.file ((p.treeBuilder root output).place (root.along ms))]) := by
  intro here
  refine ⟨fun site site' h h' => ?_, fun hthrough => ?_,
    fun hbad => ⟨fun hthrough e h => ?_, fun site start e ms h hp hms => ?_⟩⟩
  · exact TreeBuilder.rewritten_alike hrewritten hdisk hlinks (build_eq_ok_iff.mp h).1
      (build_eq_ok_iff.mp h').1
  · rw [build_eq_error_iff, build_eq_error_iff]
    exact TreeBuilder.builds_through hremoved hdisk hthrough
  · rw [build_eq_error_iff]
    exact TreeBuilder.removed_alike hremoved hdisk hlinks hbad hthrough (build_eq_error_iff.mp h)
  · exact TreeBuilder.nodesAt_of_no_feature hremoved hdisk (by simp) hlinks hbad hp hms
      (build_eq_ok_iff.mp h).1

/-- The path of the file leads through the file with a slash behind it. -/
theorem leadsThrough_malformedDisk : malformedDisk.LeadsThrough false
    [Utf8.encode "d".toList, sampleName] (.ofString "d/a.feature/") := by
  refine ⟨by decide +kernel, ⟨Disk.maxLinks, [Utf8.encode "d".toList, sampleName], [[]]⟩, ?_,
    List.prefix_rfl, by simp⟩
  change Relation.ReflTransGen _
    (⟨Disk.maxLinks, [], [Utf8.encode "d".toList, sampleName, []]⟩ : Lookup) _
  refine .head (.name (d := .directory [(sampleName, .file [0xFF])]) rfl (by decide) rfl nofun) ?_
  exact .single (.name (d := .file [0xFF]) rfl (by decide) rfl nofun)

/-- A file that is no text is a node of its own name. The site is the same beside it as that of an
empty file, and a root with a slash behind the file is refused. -/
theorem SiteBuilder.runs_over_malformed_text :
    let here := malformedDisk.leadsTo [Utf8.encode "d".toList, sampleName]
    (∃ site site', unmatching.build malformedDisk (.ofString "d") (.ofString "o") = .ok site ∧
      unmatching.build (sampleDisk [(sampleName, .file [])]) (.ofString "d") (.ofString "o") =
        .ok site' ∧
      site.root.cut here = site'.root.cut here ∧
      site.root.nodesAt here =
        [.file ⟨.ofString "d/a.feature", "a.feature", .ofString "o/d/a.feature"⟩]) ∧
      unmatching.build malformedDisk (.ofString "d/a.feature/") (.ofString "o") =
        .error (.io (.ofString "d/a.feature/") .notDirectory) ∧
      unmatching.build (sampleDisk []) (.ofString "d/a.feature/") (.ofString "o") =
        .error (.io (.ofString "d/a.feature/") .notFound) := by
  intro here
  have hdisk : malformedDisk.root.wellFormed = true := by decide
  have hsite : ∀ content, ∃ site, unmatching.build (sampleDisk [(sampleName, .file content)])
      (.ofString "d") (.ofString "o") = .ok site := by
    intro content
    have hedited := edited_sampleDisk [(sampleName, .file [0xFF])] [(sampleName, .file content)]
    exact exists_site (hedited.root.wellFormed.trans hdisk) (inspect_sampleDisk _)
      (by simp [Entry.descendants, Entry.descendantsOfAll, Entry.descendantsNamed])
      fun _ => ⟨_, rfl⟩
  obtain ⟨site, hbuild⟩ := hsite [0xFF]
  obtain ⟨site', hbuild'⟩ := hsite []
  have hbad : (Disk.textOf [0xFF]).toOption.bind unmatching.grammar = none := by
    rw [textOf_malformed]
    rfl
  have hlinks := noLinkLeadsTo_malformedDisk [Utf8.encode "d".toList, sampleName]
  have hrewritten := edited_sampleDisk [(sampleName, .file [0xFF])] [(sampleName, .file [])]
  have hremoved := edited_sampleDisk [(sampleName, .file [0xFF])] []
  have hruns := fun root => @one_file_disturbs_no_other unmatching malformedDisk _ _ _ _ _ _ root
    (.ofString "o") hdisk hlinks hrewritten hremoved
  obtain ⟨hsame, -, hfile⟩ := hruns (.ofString "d")
  have hrefused := (hruns (.ofString "d/a.feature/")).2.1 leadsThrough_malformedDisk
  have hnode := (hfile hbad).2 site _ _ [sampleName] hbuild (inspect_sampleDisk _) rfl
  have hplace : (unmatching.treeBuilder (.ofString "d") (.ofString "o")).place
      ((Path.ofString "d").along [sampleName]) =
        ⟨.ofString "d/a.feature", "a.feature", .ofString "o/d/a.feature"⟩ := by
    decide +kernel
  exact ⟨⟨site, site', hbuild, hbuild', (hsame site site' hbuild hbuild').1, hplace ▸ hnode⟩,
    hrefused⟩

/-- A run may fail with an error that is not met with the file removed. -/
theorem SiteBuilder.root_through_file :
    malformedDisk.root.wellFormed = true ∧ isFeatureName (Path.displayName sampleName) = true ∧
      Disk.textOf [0xFF] = .error .notText ∧
      malformedDisk.NoLinkLeadsTo [Utf8.encode "d".toList, sampleName] ∧
      malformedDisk.Edited [(sampleName, .file [0xFF])] [] [Utf8.encode "d".toList]
        (sampleDisk []) ∧
      ¬ ∀ e, unmatching.build malformedDisk (.ofString "d/a.feature/") (.ofString "o") = .error e →
        unmatching.build (sampleDisk []) (.ofString "d/a.feature/") (.ofString "o") =
          .error e := by
  have hedited := edited_sampleDisk [(sampleName, .file [0xFF])] []
  refine ⟨by decide, by decide +kernel, textOf_malformed, noLinkLeadsTo_malformedDisk _, hedited,
    fun hsame => ?_⟩
  obtain ⟨hfirst, hsecond⟩ := TreeBuilder.builds_through
    (b := unmatching.treeBuilder (.ofString "d/a.feature/") (.ofString "o")) hedited (by decide)
    leadsThrough_malformedDisk
  have hfails := hsame _ (build_eq_error_iff.mpr hfirst)
  rw [build_eq_error_iff, hsecond] at hfails
  simp at hfails

end FeatureDocs
