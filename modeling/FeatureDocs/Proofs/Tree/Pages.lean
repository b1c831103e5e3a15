import FeatureDocs.Proofs.Document.Tags
import FeatureDocs.Proofs.Tree.Build

/-!
# The pages of a tree

Every page of a tree is the finished document of the file at its path. Its blocks are those of the
document that the grammar makes of the text of the file, in the same order, each with its own tags
and the synthetic ones, and with those of the feature beside them.

## Main definitions

* `DocTree.pages`: the pages of a tree with their paths
* `Disk.parsed?`: the document that a grammar makes of the text of a file

## Main results

* `TreeBuilder.annotate_blocks`: the tags of the blocks of a finished document
* `TreeBuilder.blocks_of_mem_pages`: the tags of the blocks of a page
-/

namespace FeatureDocs

/-- The pages of a tree in the order of the nodes, each with the path of its file. -/
def DocTree.pages (tree : DocTree) : List (Path × FeaturePage) :=
  tree.nodes.filterMap fun node => node.page?.map fun page => (node.place.path, page)

theorem DocTree.scenarios_eq_flatMap_pages (tree : DocTree) :
    tree.scenarios = tree.pages.flatMap fun x => x.2.document.children := by
  rw [scenarios, pages]
  induction tree.nodes with
  | nil => rfl
  | cons node nodes ih =>
    rw [List.flatMap_cons, List.filterMap_cons, ih, ownScenarios]
    cases node.page? <;> rfl

/-- The document that a grammar makes of the text of a file. -/
def Disk.parsed? (disk : Disk) (grammar : Grammar) (p : Path) : Option Document :=
  (disk.readText p).toOption.bind grammar

namespace TreeBuilder

variable {b : TreeBuilder} {disk : Disk}

/-! ## Finished documents -/

/-- **The blocks of a finished document** have the tags of the blocks of the raw one without `@`,
then the synthetic tags; the tags of the feature without `@` stand apart. -/
theorem annotate_blocks {d finished : Document} (h : b.annotate d = .ok finished) :
    List.Forall₂ (fun own c => c.tags = own.map bareTag ++ c.syntheticTags b.addTags)
        (d.children.map Scenario.tags) finished.children ∧
      ∀ c ∈ finished.children, c.featureTags = d.tags.map bareTag := by
  unfold annotate at h
  dsimp only at h
  cases hr : (d.bareTags.escapeArguments.resolve b.matcher b.addTags).result with
  | error e => simp [hr] at h
  | ok implemented =>
    rw [hr] at h
    obtain rfl := Except.ok.inj h
    obtain ⟨hchildren, hown⟩ := Document.resolve_children hr
    -- The resolver leaves the tags of the feature alone.
    have htags : (d.bareTags.escapeArguments.resolve b.matcher b.addTags).subject.tags =
        d.tags.map bareTag := by
      rw [Document.resolve] at hr ⊢
      split at hr
      · simp at hr
      · rfl
    constructor
    · -- Every pass goes block by block, so the blocks can be compared one by one.
      rw [Document.inheritFeature, hchildren, List.forall₂_map_left_iff,
        List.forall₂_map_right_iff, List.forall₂_map_right_iff]
      change List.Forall₂ _ d.children
        ((d.children.map Scenario.bareTags).map Scenario.escapeArguments)
      rw [List.forall₂_map_right_iff, List.forall₂_map_right_iff, List.forall₂_same]
      intro c hc
      obtain ⟨own, hresult⟩ := hown c.bareTags.escapeArguments
        (List.mem_map_of_mem (List.mem_map_of_mem hc))
      exact Scenario.tags_resolve hresult
    · intro c hc
      obtain ⟨c', -, rfl⟩ := List.mem_map.mp hc
      exact htags

/-! ## Pages -/

theorem page_of_buildFile {p : Path} {tree node : DocTree} {page : FeaturePage}
    (h : b.buildFile p (disk.readText p) = .ok tree) (hnode : node ∈ tree.nodes)
    (hpage : node.page? = some page) :
    ∃ d, b.ReadsAs disk node.place.path d ∧ b.annotate d = .ok page.document := by
  unfold buildFile at h
  split at h
  · obtain rfl := Except.ok.inj h
    obtain rfl := List.mem_singleton.mp hnode
    simp [DocTree.page?] at hpage
  · rename_i d hd
    cases ha : b.annotate d with
    | error e => simp [ha] at h
    | ok finished =>
      rw [ha] at h
      obtain rfl := Except.ok.inj h
      obtain rfl := List.mem_singleton.mp hnode
      obtain rfl := Option.some.inj hpage
      exact ⟨d, document?_eq_some_iff.mp hd, ha⟩

theorem mem_nodesOfAll_iff {trees : List DocTree} {node : DocTree} :
    node ∈ DocTree.nodesOfAll trees ↔ ∃ tree ∈ trees, node ∈ tree.nodes := by
  induction trees with
  | nil => simp [DocTree.nodesOfAll]
  | cons tree trees ih => simp only [DocTree.nodesOfAll, List.mem_append, ih, List.mem_cons,
      exists_eq_or_imp]

theorem mem_buildEntries {p : Path} {entries : List (Name × Entry)} {trees : List DocTree}
    {tree : DocTree} (h : b.buildEntries disk p entries = .ok trees) (htree : tree ∈ trees) :
    ∃ n e, (n, e) ∈ entries ∧ b.buildEntry disk (p.entry n) e = .ok tree := by
  obtain ⟨⟨n, e⟩, hmem, he⟩ := exists_partner (buildEntries_eq_ok_iff.mp h).flip htree
  exact ⟨n, e, hmem, he⟩

/-- A page comes from the document of the file at its path. -/
theorem page_of_buildEntry {p : Path} {e : Entry} {tree node : DocTree} {page : FeaturePage}
    (h : b.buildEntry disk p e = .ok tree) (hnode : node ∈ tree.nodes)
    (hpage : node.page? = some page) :
    ∃ d, b.ReadsAs disk node.place.path d ∧ b.annotate d = .ok page.document := by
  induction e using Entry.induction generalizing p tree with
  | file content | link target => exact page_of_buildFile h hnode hpage
  | denied operation =>
    cases operation with
    | read => exact page_of_buildFile h hnode hpage
    | inspect | list => simp [buildEntry] at h
  | directory entries ih =>
    obtain ⟨children, hchildren, rfl⟩ := buildEntry_directory_eq_ok_iff.mp h
    -- The directory itself has no page; any other node lies in the tree of an entry.
    rcases List.mem_cons.mp hnode with rfl | hnode
    · simp [DocTree.page?] at hpage
    · obtain ⟨child, hchild, hnode⟩ := mem_nodesOfAll_iff.mp hnode
      obtain ⟨n, e, hmem, he⟩ := mem_buildEntries hchildren hchild
      exact ih n e hmem he hnode

/-- A file that reads as a document has a page. -/
theorem exists_page {p q : Path} {tree : DocTree} {place : List Name} {e : Entry} {d : Document}
    (hdisk : disk.root.wellFormed = true) (h : b.build disk p = .ok tree)
    (hq : q ∈ disk.visits p) (hinspect : disk.inspect q = .ok (place, e))
    (he : e.isDirectory = false) (hd : b.ReadsAs disk q d) :
    ∃ node ∈ tree.nodes, ∃ page, node.page? = some page := by
  have haccounts := build_accountsFor (b := b) hdisk p
  rw [h] at haccounts
  obtain ⟨node, hnode, hrepresents⟩ := exists_partner haccounts.2 hq
  exact ⟨node, hnode, Option.isSome_iff_exists.mp
    (hrepresents.feature_iff.mpr ⟨⟨place, e, hinspect, he⟩, d, hd⟩)⟩

/-- **The blocks of a page** are those of the document that the grammar makes of its file. -/
theorem blocks_of_mem_pages {p : Path} {tree : DocTree} (h : b.build disk p = .ok tree)
    {x : Path × FeaturePage} (hx : x ∈ tree.pages) :
    ∃ raw, disk.parsed? b.grammar x.1 = some raw ∧
      List.Forall₂ (fun own c => c.tags = own.tags.map bareTag ++ c.syntheticTags b.addTags)
        raw.children x.2.document.children ∧
      ∀ c ∈ x.2.document.children, c.featureTags = raw.tags.map bareTag := by
  obtain ⟨node, hnode, hsome⟩ := List.mem_filterMap.mp hx
  obtain ⟨page, hpage, rfl⟩ := Option.map_eq_some_iff.mp hsome
  have hentry : ∃ e, b.buildEntry disk p e = .ok tree := by
    unfold build at h
    split at h
    · simp at h
    · exact ⟨_, h⟩
  obtain ⟨e, he⟩ := hentry
  -- From the page to its document, and from there to what the grammar makes of the text.
  obtain ⟨d, ⟨-, text, htext, hread⟩, ha⟩ := page_of_buildEntry he hnode hpage
  obtain ⟨raw, hraw, rfl⟩ := Option.map_eq_some_iff.mp hread
  obtain ⟨hown, hfeature⟩ := annotate_blocks ha
  rw [Document.tags_renderDescriptions, List.forall₂_map_left_iff] at hown
  refine ⟨raw, ?_, hown, hfeature⟩
  rw [Disk.parsed?, htext]
  exact hraw

end TreeBuilder

end FeatureDocs
