import FeatureDocs.Gherkin.Grammar
import FeatureDocs.Proofs.Disk.Descendants
import FeatureDocs.Proofs.Document.Resolve
import FeatureDocs.Tree.Build
import Mathlib.Data.List.Forall2

/-!
# The tree mirrors the disk

A build visits the entries below a path, parents first and in listing order. Either one of them
fails, and the build ends with the error of the first that does; or none fails, and there is one
node for each of them, in the same order. A file that cannot be read, or is no feature, does not
fail. Both outcomes are put together from those of the entries of a directory in the same way, so
one relation between what is visited and what comes of it carries the induction.

## Main definitions

* `TreeBuilder.ReadsAs`, `TreeBuilder.Fails`: what is found at a path
* `TreeBuilder.Represents`: a node tells about the entry at a path
* `TreeBuilder.AccountsFor`: a result of a build accounts for the paths that it visits

## Main results

* `TreeBuilder.build_accounts`: the first failure, or a node for each entry
-/

namespace FeatureDocs

namespace TreeBuilder

variable (b : TreeBuilder) (disk : Disk)

/-- A path has the name of a feature file, and its text reads as a document. -/
def ReadsAs (p : Path) (d : Document) : Prop :=
  isFeatureName (shownName p) = true ∧
    ∃ text, disk.readText p = .ok text ∧ Document.read? b.grammar b.render text = some d

/-- What ends a build at a path: an entry that cannot be inspected, a directory that cannot be
listed, or a step of a feature file on which the matcher fails. -/
inductive Fails (p : Path) : BuildError → Prop
  | inspect {cause : OsError} : disk.inspect p = .error cause → Fails p (.io p cause)
  | list {place : List Name} : disk.inspect p = .ok (place, .denied .list) →
      Fails p (.io p .permissionDenied)
  | stepMatch {place : List Name} {e : Entry} {d : Document} {error : MatcherError} :
      disk.inspect p = .ok (place, e) → e.isDirectory = false → b.ReadsAs disk p d →
      b.matcher.FailsOn d.steps error → Fails p (.stepMatch error)

/-- A node tells about the entry at a path. It is a directory if the entry is one, with a child for
each entry in listing order, named as the entry is; it is a feature if the entry is no directory and
reads as a document; and it is a file in all other cases. -/
structure Represents (p : Path) (node : DocTree) : Prop where
  path_eq : node.place.path = p
  name_eq : node.place.name = shownName p
  directory_iff : node.children?.isSome = true ↔
    ∃ place entries, disk.inspect p = .ok (place, .directory entries)
  feature_iff : node.page?.isSome = true ↔
    (∃ place e, disk.inspect p = .ok (place, e) ∧ e.isDirectory = false) ∧ ∃ d, b.ReadsAs disk p d
  children_eq : ∀ place entries, disk.inspect p = .ok (place, .directory entries) →
    node.children?.map (fun children =>
        children.map fun child => (child.place.path, child.place.name)) =
      some (entries.map fun x => (p.entry x.1, Path.displayName x.1))

/-- A result accounts for paths: it is the error of the first that fails, or none fails and there is
a node for each. -/
def AccountsFor (paths : List Path) : Except BuildError (List DocTree) → Prop
  | .error error =>
    ∃ before p after, paths = before ++ p :: after ∧ b.Fails disk p error ∧
      ∀ q ∈ before, ∀ e, ¬ b.Fails disk q e
  | .ok nodes =>
    (∀ q ∈ paths, ∀ e, ¬ b.Fails disk q e) ∧ List.Forall₂ (b.Represents disk) paths nodes

variable {b disk}

/-! ## Putting results together -/

theorem AccountsFor.nil : b.AccountsFor disk [] (.ok []) := ⟨by simp, .nil⟩

/-- A path that fails ends the build. -/
theorem AccountsFor.fail {p : Path} {error : BuildError} (h : b.Fails disk p error) :
    b.AccountsFor disk [p] (.error error) :=
  ⟨[], p, [], rfl, h, by simp⟩

/-- What comes later does not matter behind an error. -/
theorem AccountsFor.error_append {paths later : List Path} {error : BuildError}
    (h : b.AccountsFor disk paths (.error error)) :
    b.AccountsFor disk (paths ++ later) (.error error) := by
  obtain ⟨before, p, after, rfl, hp, hbefore⟩ := h
  exact ⟨before, p, after ++ later, by simp, hp, hbefore⟩

/-- Paths without failure in front. -/
theorem AccountsFor.append {paths later : List Path} {nodes : List DocTree}
    {result : Except BuildError (List DocTree)} (h : b.AccountsFor disk paths (.ok nodes))
    (hlater : b.AccountsFor disk later result) :
    b.AccountsFor disk (paths ++ later) (result.map (nodes ++ ·)) := by
  obtain ⟨hsafe, hnodes⟩ := h
  cases result with
  | error error =>
    -- The first failure of the later paths is the first of all.
    obtain ⟨before, p, after, rfl, hp, hbefore⟩ := hlater
    refine ⟨paths ++ before, p, after, by simp, hp, fun q hq => ?_⟩
    rcases List.mem_append.mp hq with hq | hq
    · exact hsafe q hq
    · exact hbefore q hq
  | ok more =>
    obtain ⟨hsafe', hmore⟩ := hlater
    refine ⟨fun q hq => ?_, List.rel_append hnodes hmore⟩
    rcases List.mem_append.mp hq with hq | hq
    · exact hsafe q hq
    · exact hsafe' q hq

/-! ## Files -/

theorem document?_eq_some_iff {p : Path} {d : Document} :
    b.document? p (disk.readText p) = some d ↔ b.ReadsAs disk p d := by
  unfold document? ReadsAs
  split
  · rename_i hname
    cases disk.readText p with
    | error cause => simp [Except.toOption]
    | ok text => simp [Except.toOption, hname]
  · rename_i hname
    simp [hname]

/-- A path that leads to no file does not read as a document: a link that dangles or leads to a
directory does not, whatever its name. -/
theorem not_readsAs {p : Path}
    (h : ∀ place content, disk.locate true p = .ok place →
      disk.root.descend place ≠ .ok (.file content)) (d : Document) : ¬ b.ReadsAs disk p d := by
  rintro ⟨-, text, htext, -⟩
  rw [Disk.readText] at htext
  cases hp : disk.locate true p with
  | error cause => simp [hp, bind, Except.bind] at htext
  | ok place =>
    cases hd : disk.root.descend place with
    | error cause => simp [hp, hd, bind, Except.bind] at htext
    | ok e =>
      cases e with
      | file content => exact h place content hp hd
      | directory entries | link target => simp [hp, hd, Entry.read, bind, Except.bind] at htext
      | denied operation =>
        cases operation <;> simp [hp, hd, Entry.read, bind, Except.bind] at htext

theorem annotate_eq_error_iff {d : Document} {error : MatcherError} :
    b.annotate d = .error error ↔ b.matcher.FailsOn d.steps error := by
  rw [← Document.failsOn_prepared, ← Document.resolve_eq_error_iff b.matcher b.addTags, annotate]
  cases (d.bareTags.escapeArguments.resolve b.matcher b.addTags).result <;> simp

/-- Only the matcher fails on an entry that is no directory. -/
theorem Fails.of_file {p : Path} {place : List Name} {e : Entry} {error : BuildError}
    (h : b.Fails disk p error) (hp : disk.inspect p = .ok (place, e))
    (he : e.isDirectory = false) :
    ∃ d cause, b.ReadsAs disk p d ∧ b.matcher.FailsOn d.steps cause ∧ error = .stepMatch cause := by
  cases h with
  | inspect hinspect => simp [hp] at hinspect
  | list hlist =>
    obtain ⟨-, rfl⟩ := Prod.mk.inj (Except.ok.inj (hp.symm.trans hlist))
    simp [Entry.isDirectory] at he
  | stepMatch _ _ hd hfails => exact ⟨_, _, hd, hfails, rfl⟩

theorem represents_file {p : Path} {place : List Name} {e : Entry} {node : DocTree}
    (hp : disk.inspect p = .ok (place, e)) (he : e.isDirectory = false)
    (hpath : node.place.path = p) (hname : node.place.name = shownName p)
    (hchildren : node.children? = none)
    (hpage : node.page?.isSome = true ↔ ∃ d, b.ReadsAs disk p d) : b.Represents disk p node where
  path_eq := hpath
  name_eq := hname
  directory_iff := by
    rw [hchildren]
    simp only [Option.isSome_none, Bool.false_eq_true, false_iff]
    rintro ⟨_, entries, hdir⟩
    obtain ⟨-, rfl⟩ := Prod.mk.inj (Except.ok.inj (hp.symm.trans hdir))
    simp [Entry.isDirectory] at he
  feature_iff := hpage.trans ⟨fun hd => ⟨⟨place, e, hp, he⟩, hd⟩, fun h => h.2⟩
  children_eq _ entries hdir := by
    obtain ⟨-, rfl⟩ := Prod.mk.inj (Except.ok.inj (hp.symm.trans hdir))
    simp [Entry.isDirectory] at he

/-- What comes of an entry that is no directory. -/
theorem buildFile_accounts {p : Path} {place : List Name} {e : Entry}
    (hp : disk.inspect p = .ok (place, e)) (he : e.isDirectory = false) :
    b.AccountsFor disk [p] ((b.buildFile p (disk.readText p)).map DocTree.nodes) := by
  unfold buildFile
  cases hd : b.document? p (disk.readText p) with
  | none =>
    -- A file that does not read as a document becomes a file, and nothing fails.
    have hnone : ∀ d, ¬ b.ReadsAs disk p d := fun d h => by
      simp [document?_eq_some_iff.mpr h] at hd
    refine ⟨fun q hq error h => ?_, .cons ?_ .nil⟩
    · obtain rfl := List.mem_singleton.mp hq
      obtain ⟨d, cause, hreads, -⟩ := h.of_file hp he
      exact hnone d hreads
    · refine represents_file hp he rfl rfl rfl ?_
      simp [DocTree.page?, hnone]
  | some d =>
    have hreads := document?_eq_some_iff.mp hd
    dsimp only
    cases ha : b.annotate d with
    | error cause => exact .fail (.stepMatch hp he hreads (annotate_eq_error_iff.mp ha))
    | ok annotated =>
      -- The text reads as one document only, and on that the matcher does not fail.
      refine ⟨fun q hq error h => ?_, .cons ?_ .nil⟩
      · obtain rfl := List.mem_singleton.mp hq
        obtain ⟨d', cause, hreads', hfails, -⟩ := h.of_file hp he
        obtain rfl : d' = d := by
          have hd' := document?_eq_some_iff.mpr hreads'
          rw [hd] at hd'
          exact (Option.some.inj hd').symm
        simp [annotate_eq_error_iff.mpr hfails] at ha
      · refine represents_file hp he rfl rfl rfl ?_
        simp only [DocTree.page?, Option.isSome_some, true_iff]
        exact ⟨d, hreads⟩

/-! ## Directories -/

/-- The node of a directory, by the nodes of its entries. -/
theorem buildEntry_directory_eq_ok_iff {p : Path} {entries : List (Name × Entry)} {tree : DocTree} :
    b.buildEntry disk p (.directory entries) = .ok tree ↔
      ∃ trees, b.buildEntries disk p entries = .ok trees ∧ tree = b.directoryNode p trees := by
  rw [buildEntry]
  cases b.buildEntries disk p entries with
  | error e => simp [Except.map]
  | ok trees => simp [Except.map, eq_comm]

/-- The nodes of the entries of a directory are those of each of them. -/
theorem buildEntries_eq_ok_iff {p : Path} {entries : List (Name × Entry)}
    {trees : List DocTree} :
    b.buildEntries disk p entries = .ok trees ↔
      List.Forall₂ (fun x tree => b.buildEntry disk (p.entry x.1) x.2 = .ok tree) entries
        trees := by
  induction entries generalizing trees with
  | nil => rw [buildEntries, List.forall₂_nil_left_iff, Except.ok.injEq, eq_comm]
  | cons entry entries ih =>
    obtain ⟨n, e⟩ := entry
    rw [buildEntries, buildNamed, List.forall₂_cons_left_iff]
    cases b.buildEntry disk (p.entry n) e with
    | error error => simp
    | ok tree =>
      cases hrest : b.buildEntries disk p entries with
      | error error => simp [Except.map, ← ih, hrest]
      | ok rest =>
        simp only [Except.map, Except.ok.injEq, ← ih, hrest, exists_and_left, exists_eq_left']
        exact eq_comm

theorem place_buildFile {p : Path} {text : Except OsError String} {node : DocTree}
    (h : b.buildFile p text = .ok node) :
    (node.place.path, node.place.name) = (p, shownName p) := by
  unfold buildFile at h
  split at h
  · obtain rfl := Except.ok.inj h
    rfl
  · split at h
    · simp at h
    · obtain rfl := Except.ok.inj h
      rfl

/-- An entry that is no directory has one node. -/
theorem nodes_of_buildFile {p : Path} {text : Except OsError String} {tree : DocTree}
    (h : b.buildFile p text = .ok tree) : tree.nodes = [tree] := by
  unfold buildFile at h
  split at h
  · obtain rfl := Except.ok.inj h
    rfl
  · split at h
    · simp at h
    · obtain rfl := Except.ok.inj h
      rfl

theorem place_buildEntry {p : Path} {e : Entry} {node : DocTree}
    (h : b.buildEntry disk p e = .ok node) :
    (node.place.path, node.place.name) = (p, shownName p) := by
  cases e with
  | directory entries =>
    obtain ⟨children, -, rfl⟩ := buildEntry_directory_eq_ok_iff.mp h
    rfl
  | file content => exact place_buildFile h
  | link target => exact place_buildFile h
  | denied operation =>
    cases operation with
    | read => exact place_buildFile h
    | inspect | list => simp [buildEntry] at h

/-- The name of an entry is shown as the name of its node. -/
theorem shownName_entry {p : Path} {n : Name} (hp : p.bytes ≠ []) (hn : isEntryName n = true) :
    shownName (p.entry n) = Path.displayName n := by
  rw [shownName, Path.fileName?_entry hp hn]

theorem places_buildEntries {p : Path} {entries : List (Name × Entry)} {nodes : List DocTree}
    (hp : p.bytes ≠ []) (hwf : Entry.wellFormedAll entries = true)
    (h : b.buildEntries disk p entries = .ok nodes) :
    (nodes.map fun node => (node.place.path, node.place.name)) =
      entries.map fun x => (p.entry x.1, Path.displayName x.1) := by
  induction entries generalizing nodes with
  | nil =>
    obtain rfl := Except.ok.inj h
    rfl
  | cons entry entries ih =>
    obtain ⟨n, e⟩ := entry
    rw [Entry.wellFormedAll, Entry.wellFormedNamed, Bool.and_eq_true, Bool.and_eq_true] at hwf
    rw [buildEntries, buildNamed] at h
    cases hn : b.buildEntry disk (p.entry n) e with
    | error error => simp [hn] at h
    | ok node =>
      cases hns : b.buildEntries disk p entries with
      | error error => simp [hn, hns, Except.map] at h
      | ok rest =>
        simp only [hn, hns, Except.map, Except.ok.injEq] at h
        subst h
        rw [List.map_cons, List.map_cons, ih hwf.2 hns, place_buildEntry hn,
          shownName_entry hp hwf.1.1]

/-- What comes of the entries of a directory, given what comes of each. -/
theorem buildEntries_accounts {p : Path} {entries : List (Name × Entry)}
    (h : ∀ n e, (n, e) ∈ entries → b.AccountsFor disk
      (e.descendants.map fun x => (p.entry n).along x.1)
      ((b.buildEntry disk (p.entry n) e).map DocTree.nodes)) :
    b.AccountsFor disk ((Entry.descendantsOfAll entries).map fun x => p.along x.1)
      ((b.buildEntries disk p entries).map DocTree.nodesOfAll) := by
  induction entries with
  | nil => exact .nil
  | cons entry entries ih =>
    obtain ⟨n, e⟩ := entry
    have hfirst := h n e List.mem_cons_self
    have hrest := ih fun m d hd => h m d (List.mem_cons_of_mem _ hd)
    -- The names below an entry go on from the path of the entry.
    have hpaths : (Entry.descendantsNamed (n, e)).map (fun x => p.along x.1) =
        e.descendants.map fun x => (p.entry n).along x.1 := by
      rw [Entry.descendantsNamed, List.map_map]
      rfl
    rw [Entry.descendantsOfAll, List.map_append, hpaths, buildEntries, buildNamed]
    -- The first entry is in front: its error ends the build, and its nodes come first.
    cases hn : b.buildEntry disk (p.entry n) e with
    | error error =>
      rw [hn] at hfirst
      exact hfirst.error_append
    | ok node =>
      rw [hn] at hfirst
      have hboth := hfirst.append hrest
      cases hns : b.buildEntries disk p entries with
      | error error =>
        rw [hns] at hboth
        exact hboth
      | ok nodes =>
        rw [hns] at hboth
        exact hboth

theorem represents_directory {p : Path} {place : List Name} {entries : List (Name × Entry)}
    {children : List DocTree} (hp : disk.inspect p = .ok (place, .directory entries))
    (hwf : (Entry.directory entries).wellFormed = true)
    (hc : b.buildEntries disk p entries = .ok children) :
    b.Represents disk p (b.directoryNode p children) where
  path_eq := rfl
  name_eq := rfl
  directory_iff := ⟨fun _ => ⟨place, entries, hp⟩, fun _ => rfl⟩
  feature_iff := by
    simp only [directoryNode, DocTree.page?, Option.isSome_none, Bool.false_eq_true, false_iff]
    rintro ⟨⟨_, e, he, hdir⟩, -⟩
    obtain ⟨-, rfl⟩ := Prod.mk.inj (Except.ok.inj (hp.symm.trans he))
    simp [Entry.isDirectory] at hdir
  children_eq _ entries' hp' := by
    obtain ⟨-, heq⟩ := Prod.mk.inj (Except.ok.inj (hp.symm.trans hp'))
    obtain rfl := Entry.directory.inj heq
    have hfinds := (Disk.inspect_eq_ok_iff.mp hp).1
    rw [Entry.wellFormed, Bool.and_eq_true] at hwf
    exact congrArg some (places_buildEntries hfinds.bytes_ne_nil hwf.2 hc)

/-- A listed directory does not fail itself. -/
theorem not_fails_directory {p : Path} {place : List Name} {entries : List (Name × Entry)}
    (hp : disk.inspect p = .ok (place, .directory entries)) (error : BuildError) :
    ¬ b.Fails disk p error := by
  intro h
  cases h with
  | inspect hinspect => simp [hp] at hinspect
  | list hlist => simp [hp] at hlist
  | stepMatch he hdir =>
    obtain ⟨-, rfl⟩ := Prod.mk.inj (Except.ok.inj (hp.symm.trans he))
    simp [Entry.isDirectory] at hdir

/-- **What comes of an entry accounts for all entries below it.** -/
theorem buildEntry_accounts {p : Path} {place : List Name} {e : Entry}
    (h : disk.Finds p place e) (hwf : e.wellFormed = true) :
    b.AccountsFor disk (e.descendants.map fun x => p.along x.1)
      ((b.buildEntry disk p e).map DocTree.nodes) := by
  induction e using Entry.induction generalizing p place with
  | file content =>
    exact buildFile_accounts (Disk.inspect_eq_ok_iff.mpr ⟨h, by simp⟩) rfl
  | link target =>
    exact buildFile_accounts (Disk.inspect_eq_ok_iff.mpr ⟨h, by simp⟩) rfl
  | denied operation =>
    cases operation with
    | inspect => exact .fail (.inspect h.inspect_denied)
    | list => exact .fail (.list (Disk.inspect_eq_ok_iff.mpr ⟨h, by simp⟩))
    | read => exact buildFile_accounts (Disk.inspect_eq_ok_iff.mpr ⟨h, by simp⟩) rfl
  | directory entries ih =>
    have hp := Disk.inspect_eq_ok_iff.mpr ⟨h, by simp⟩
    have hentries : b.AccountsFor disk
        ((Entry.descendantsOfAll entries).map fun x => p.along x.1)
        ((b.buildEntries disk p entries).map DocTree.nodesOfAll) :=
      buildEntries_accounts fun n e hmem =>
        ih n e hmem (h.entry hwf hmem) (Entry.wellFormed_entry hwf hmem).2
    rw [Entry.descendants, List.map_cons, buildEntry]
    -- The directory comes before its entries, though its node is made behind theirs.
    cases hc : b.buildEntries disk p entries with
    | error error =>
      rw [hc] at hentries
      obtain ⟨before, q, after, heq, hq, hbefore⟩ := hentries
      have hvisits : p :: (Entry.descendantsOfAll entries).map (fun x => p.along x.1) =
          (p :: before) ++ q :: after := by
        rw [heq, List.cons_append]
      refine ⟨p :: before, q, after, hvisits, hq, fun r hr => ?_⟩
      rcases List.mem_cons.mp hr with rfl | hr
      · exact not_fails_directory hp
      · exact hbefore r hr
    | ok children =>
      rw [hc] at hentries
      have hown : b.AccountsFor disk [p] (.ok [b.directoryNode p children]) :=
        ⟨fun q hq => List.mem_singleton.mp hq ▸ not_fails_directory hp,
          .cons (represents_directory hp hwf hc) .nil⟩
      exact hown.append hentries

/-! ## Builds -/

theorem build_of_inspect {p : Path} {place : List Name} {e : Entry}
    (h : disk.inspect p = .ok (place, e)) : b.build disk p = b.buildEntry disk p e := by
  rw [build, h]

theorem build_of_inspect_error {p : Path} {cause : OsError} (h : disk.inspect p = .error cause) :
    b.build disk p = .error (.io p cause) := by
  rw [build, h]

/-- What comes of a path accounts for all that is visited. -/
theorem build_accountsFor (hdisk : disk.root.wellFormed = true) (p : Path) :
    b.AccountsFor disk (disk.visits p) ((b.build disk p).map DocTree.nodes) := by
  unfold build
  cases hp : disk.inspect p with
  | error cause =>
    rw [Disk.visits, hp]
    exact .fail (.inspect hp)
  | ok found =>
    obtain ⟨place, e⟩ := found
    obtain ⟨hfinds, -⟩ := Disk.inspect_eq_ok_iff.mp hp
    rw [Disk.visits_eq hp]
    exact buildEntry_accounts hfinds (Entry.wellFormed_descend hdisk hfinds.2)

/-- The paths of the nodes are those that are visited. -/
theorem paths_of_nodes {p : Path} {tree : DocTree} (hdisk : disk.root.wellFormed = true)
    (h : b.build disk p = .ok tree) :
    tree.nodes.map (fun node => node.place.path) = disk.visits p := by
  have haccounts := build_accountsFor (b := b) hdisk p
  rw [h] at haccounts
  rw [← List.map_id (disk.visits p), ← List.forall₂_eq_eq_eq, List.forall₂_map_left_iff,
    List.forall₂_map_right_iff]
  exact haccounts.2.flip.imp fun _ _ hnode => hnode.path_eq

/-- Where nothing fails there is a tree. -/
theorem exists_tree (hdisk : disk.root.wellFormed = true) {p : Path}
    (h : ∀ q ∈ disk.visits p, ∀ e, ¬ b.Fails disk q e) : ∃ tree, b.build disk p = .ok tree := by
  have haccounts := build_accountsFor (b := b) hdisk p
  cases hb : b.build disk p with
  | error error =>
    rw [hb] at haccounts
    obtain ⟨before, q, after, hvisits, hq, -⟩ := haccounts
    exact absurd hq (h q (hvisits ▸ List.mem_append_right _ List.mem_cons_self) error)
  | ok tree => exact ⟨tree, rfl⟩

/-- There is a tree where no entry is denied, if the matcher decides on every line. -/
theorem exists_tree_of_total {p : Path} {place : List Name} {e : Entry}
    (hdisk : disk.root.wellFormed = true) (hp : disk.inspect p = .ok (place, e))
    (hdenied : ∀ x ∈ e.descendants, ∀ operation, x.2 ≠ .denied operation)
    (hmatch : ∀ line, ∃ found, b.matcher line = .ok found) : ∃ tree, b.build disk p = .ok tree := by
  refine exists_tree hdisk fun q hq error hfails => ?_
  obtain ⟨ns, d, hd, -, hfinds⟩ := (Disk.mem_visits_iff hdisk hp).mp hq
  have hwf := Entry.wellFormed_descend hdisk (Disk.inspect_eq_ok_iff.mp hp).1.2
  have hallowed := hdenied (ns, d) ((Entry.mem_descendants_iff hwf).mpr hd)
  have hinspect := Disk.inspect_eq_ok_iff.mpr ⟨hfinds, hallowed .inspect⟩
  cases hfails with
  | inspect herror => simp [hinspect] at herror
  | list hlist =>
    obtain ⟨-, rfl⟩ := Prod.mk.inj (Except.ok.inj (hinspect.symm.trans hlist))
    exact hallowed .list rfl
  | stepMatch _ _ _ hmatcher =>
    obtain ⟨_, step, _, -, herror, -⟩ := hmatcher
    obtain ⟨found, hfound⟩ := hmatch step.line
    simp [hfound] at herror

/-- **The first failure, or a node for each entry.**

A build visits every entry below the entry of its path once: the path itself, and from it on by the
names of entries. If some visited path fails, the result is the error of the first one; otherwise
there is a node for each, in the same order, which tells about its entry. What leads to no file is
no feature, so a link that dangles or leads to a directory does not fail either. -/
theorem build_accounts (b : TreeBuilder) (disk : Disk) (p : Path)
    (hdisk : disk.root.wellFormed = true) :
    ((∃ error before q after, b.build disk p = .error error ∧
          disk.visits p = before ++ q :: after ∧ b.Fails disk q error ∧
          ∀ r ∈ before, ∀ e, ¬ b.Fails disk r e) ∨
        ∃ tree, b.build disk p = .ok tree ∧ (∀ q ∈ disk.visits p, ∀ e, ¬ b.Fails disk q e) ∧
          List.Forall₂ (b.Represents disk) (disk.visits p) tree.nodes) ∧
      (disk.visits p).Nodup ∧
      (∀ place e, disk.inspect p = .ok (place, e) → ∀ q, q ∈ disk.visits p ↔
        ∃ ns d, e.descend ns = .ok d ∧ q = p.along ns ∧ disk.Finds q (place ++ ns) d) ∧
      ∀ q, (∀ place content, disk.locate true q = .ok place →
        disk.root.descend place ≠ .ok (.file content)) → ∀ d, ¬ b.ReadsAs disk q d := by
  have haccounts := build_accountsFor (b := b) hdisk p
  refine ⟨?_, Disk.nodup_visits hdisk, fun place e hp q => Disk.mem_visits_iff hdisk hp,
    fun q hq => not_readsAs hq⟩
  cases hb : b.build disk p with
  | error error =>
    rw [hb] at haccounts
    obtain ⟨before, q, after, hvisits, hq, hbefore⟩ := haccounts
    exact Or.inl ⟨error, before, q, after, rfl, hvisits, hq, hbefore⟩
  | ok tree =>
    rw [hb] at haccounts
    exact Or.inr ⟨tree, rfl, haccounts.1, haccounts.2⟩

/-- A file with the text of a feature reads as a document, if it has the name of one. -/
theorem exists_readsAs (hgrammar : b.grammar = .ofFeatures Gherkin.Feature.parse?) {q : Path}
    {place : List Name} (h : disk.Finds q place (.file (Utf8.encode "Feature: A".toList)))
    (hname : isFeatureName (shownName q) = true) : ∃ d, b.ReadsAs disk q d := by
  have hparse : (Grammar.ofFeatures Gherkin.Feature.parse? "Feature: A").isSome = true := by
    decide +kernel
  obtain ⟨raw, hraw⟩ := Option.isSome_iff_exists.mp hparse
  have htext : disk.readText q = .ok "Feature: A" := by
    have hdecode : Utf8.decode? (Utf8.encode "Feature: A".toList) = some "Feature: A".toList := by
      decide +kernel
    simp only [h.readText, Disk.textOf, hdecode, String.ofList_toList]
  exact ⟨_, hname, _, htext, by rw [Document.read?, hgrammar, hraw, Option.map_some]⟩

/-- A directory with a feature file, and a link that leads nowhere and has the name of one. -/
def danglingDisk : Disk where
  root := .directory [(Utf8.encode "d".toList, .directory [
    (Utf8.encode "a.feature".toList, .file (Utf8.encode "Feature: A".toList)),
    (Utf8.encode "b.feature".toList, .link (.ofString "c"))])]
  workingDirectory := []

theorem finds_danglingDisk : danglingDisk.Finds (.ofString "d") [Utf8.encode "d".toList]
    (.directory [(Utf8.encode "a.feature".toList, .file (Utf8.encode "Feature: A".toList)),
      (Utf8.encode "b.feature".toList, .link (.ofString "c"))]) :=
  ⟨Disk.locateFrom_name (d := danglingDisk.root) rfl (by decide) rfl, rfl⟩

theorem locate_dangling_link :
    danglingDisk.locate true (.ofString "d/b.feature") = .error .notFound := by
  change danglingDisk.locateFrom true Disk.maxLinks []
    [Utf8.encode "d".toList, Utf8.encode "b.feature".toList] = _
  rw [Disk.locateFrom_cons_name (d := danglingDisk.root) rfl (by decide) rfl (by simp),
    Disk.locateFrom]
  -- The link is followed, and its target is not there.
  change danglingDisk.locateFrom true 39 [Utf8.encode "d".toList] [Utf8.encode "c".toList] = _
  rw [Disk.locateFrom]
  rfl

/-- The feature file becomes a page, and the link a file without content. -/
theorem tree_of_danglingDisk : danglingDisk.root.wellFormed = true ∧ ∃ tree x y z,
    build ⟨.ofFeatures Gherkin.Feature.parse?, id, fun _ => .ok .unmatched, true, ⟨[]⟩, ⟨[]⟩⟩
      danglingDisk (.ofString "d") = .ok tree ∧ tree.nodes = [x, y, z] ∧
      x.children?.isSome = true ∧ y.page?.isSome = true ∧ y.place.name = "a.feature" ∧
      z.page?.isSome = false ∧ z.children?.isSome = false ∧ z.place.name = "b.feature" := by
  have hdisk : danglingDisk.root.wellFormed = true := by decide
  refine ⟨hdisk, ?_⟩
  let b : TreeBuilder :=
    ⟨.ofFeatures Gherkin.Feature.parse?, id, fun _ => .ok .unmatched, true, ⟨[]⟩, ⟨[]⟩⟩
  have hroot := Disk.inspect_eq_ok_iff.mpr ⟨finds_danglingDisk, by simp⟩
  have hfile : danglingDisk.Finds (.ofString "d/a.feature") _ _ :=
    finds_danglingDisk.entry (by decide) List.mem_cons_self
  have hlink : danglingDisk.Finds (.ofString "d/b.feature") _ _ :=
    finds_danglingDisk.entry (by decide) (List.mem_cons_of_mem _ List.mem_cons_self)
  obtain ⟨tree, htree⟩ := exists_tree_of_total (b := b) hdisk hroot
    (by simp [Entry.descendants, Entry.descendantsOfAll, Entry.descendantsNamed])
    fun _ => ⟨_, rfl⟩
  obtain ⟨⟨e, _, _, _, herror, -⟩ | ⟨tree', htree', -, hnodes⟩, -, -, hnone⟩ :=
    build_accounts b danglingDisk (.ofString "d") hdisk
  · simp [htree] at herror
  obtain rfl := Except.ok.inj (htree.symm.trans htree')
  have hvisits : danglingDisk.visits (.ofString "d") =
      [.ofString "d", .ofString "d/a.feature", .ofString "d/b.feature"] := by
    rw [Disk.visits_eq hroot]
    decide
  rw [hvisits] at hnodes
  generalize hall : tree.nodes = nodes at hnodes
  rcases hnodes with _ | ⟨hx, _ | ⟨hy, _ | ⟨hz, ⟨⟩⟩⟩⟩
  refine ⟨tree, _, _, _, htree, hall, hx.directory_iff.mpr ⟨_, _, hroot⟩, ?_,
    hy.name_eq.trans (by decide +kernel), ?_, ?_, hz.name_eq.trans (by decide +kernel)⟩
  · exact hy.feature_iff.mpr ⟨⟨_, _, Disk.inspect_eq_ok_iff.mpr ⟨hfile, by simp⟩, rfl⟩,
      exists_readsAs rfl hfile (by decide +kernel)⟩
  · rw [← Bool.not_eq_true]
    intro hpage
    obtain ⟨-, d, hd⟩ := hz.feature_iff.mp hpage
    exact hnone _ (by simp [locate_dangling_link]) d hd
  · rw [← Bool.not_eq_true]
    intro hchildren
    obtain ⟨place, entries, hdirectory⟩ := hz.directory_iff.mp hchildren
    rw [Disk.inspect_eq_ok_iff.mpr ⟨hlink, by simp⟩] at hdirectory
    simp at hdirectory

end TreeBuilder

end FeatureDocs
