import FeatureDocs.Proofs.Tree.Build

/-!
# Nodes and their entries

Each node of a tree is made for one entry below the path of the build: a directory for a directory,
and a feature or a file for anything else. The nodes stand in the order of the entries, so whatever
holds of a node by its entry holds of all nodes of a tree.

## Main definitions

* `TreeBuilder.MadeFor`: a node is made for the entry at a path

## Main results

* `TreeBuilder.buildEntry_cases`: the two shapes of a tree
* `TreeBuilder.forall₂_madeFor`: the nodes of a tree, side by side with their entries
-/

namespace FeatureDocs

namespace TreeBuilder

variable {b : TreeBuilder} {disk : Disk}

/-- A node is made for the entry at a path. -/
inductive MadeFor (b : TreeBuilder) (p : Path) : Entry → DocTree → Prop
  | directory (entries : List (Name × Entry)) (children : List DocTree) :
      MadeFor b p (.directory entries) (b.directoryNode p children)
  | feature {e : Entry} (d : Document) :
      e.isDirectory = false → MadeFor b p e (b.featureNode p d)
  | file {e : Entry} : e.isDirectory = false → MadeFor b p e (.file (b.place p))

theorem madeFor_of_buildFile {p : Path} {e : Entry} {text : Except OsError String} {tree : DocTree}
    (he : e.isDirectory = false) (h : b.buildFile p text = .ok tree) : b.MadeFor p e tree := by
  unfold buildFile at h
  split at h
  · obtain rfl := Except.ok.inj h
    exact .file he
  · split at h
    · simp at h
    · obtain rfl := Except.ok.inj h
      exact .feature _ he

/-- Either there is one node for an entry that is no directory, or the node is that of a
directory. -/
theorem buildEntry_cases {p : Path} {e : Entry} {tree : DocTree}
    (h : b.buildEntry disk p e = .ok tree) :
    (e.isDirectory = false ∧ e.descendants = [([], e)] ∧ tree.nodes = [tree] ∧
        b.MadeFor p e tree) ∨
      ∃ entries children, e = .directory entries ∧ b.buildEntries disk p entries = .ok children ∧
        tree = b.directoryNode p children := by
  cases e with
  | file content | link target =>
    exact Or.inl ⟨rfl, rfl, nodes_of_buildFile h, madeFor_of_buildFile rfl h⟩
  | denied operation =>
    cases operation with
    | read => exact Or.inl ⟨rfl, rfl, nodes_of_buildFile h, madeFor_of_buildFile rfl h⟩
    | inspect | list => simp [buildEntry] at h
  | directory entries =>
    obtain ⟨children, hchildren, htree⟩ := buildEntry_directory_eq_ok_iff.mp h
    exact Or.inr ⟨entries, children, rfl, hchildren, htree⟩

/-- The nodes of several entries, each behind the path of its entry. -/
theorem forall₂_madeFor_entries {p : Path} {entries : List (Name × Entry)} {trees : List DocTree}
    (h : List.Forall₂ (fun x tree => List.Forall₂
      (fun y node => b.MadeFor ((p.entry x.1).along y.1) y.2 node) x.2.descendants tree.nodes)
      entries trees) :
    List.Forall₂ (fun x node => b.MadeFor (p.along x.1) x.2 node)
      (Entry.descendantsOfAll entries) (DocTree.nodesOfAll trees) := by
  induction h with
  | nil => exact .nil
  | @cons entry tree entries trees hfirst _ ih =>
    obtain ⟨n, e⟩ := entry
    refine List.rel_append ?_ ih
    -- The name of the entry stands in front of all that leads on from it.
    rw [Entry.descendantsNamed, List.forall₂_map_left_iff]
    exact hfirst

/-- **Each node is made for its entry**, in the order of the entries. -/
theorem forall₂_madeFor {p : Path} {e : Entry} {tree : DocTree}
    (h : b.buildEntry disk p e = .ok tree) :
    List.Forall₂ (fun x node => b.MadeFor (p.along x.1) x.2 node) e.descendants tree.nodes := by
  induction e using Entry.induction generalizing p tree with
  | file content | link target | denied operation =>
    -- There is one node, for the entry itself.
    rcases buildEntry_cases h with ⟨-, hbelow, hnodes, hmade⟩ | ⟨_, _, he, -⟩
    · rw [hbelow, hnodes]
      exact .cons hmade .nil
    · simp at he
  | directory entries ih =>
    obtain ⟨children, hchildren, rfl⟩ := buildEntry_directory_eq_ok_iff.mp h
    have hentries := (List.forall₂_and_left _ _).mpr
      ⟨fun x hx => hx, buildEntries_eq_ok_iff.mp hchildren⟩
    exact .cons (.directory entries children)
      (forall₂_madeFor_entries (hentries.imp fun x tree hx => ih x.1 x.2 hx.1 hx.2))

end TreeBuilder

end FeatureDocs
