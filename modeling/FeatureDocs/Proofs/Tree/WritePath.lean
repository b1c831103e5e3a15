import FeatureDocs.Proofs.SiteBuilder
import FeatureDocs.Proofs.Tree.Made
import FeatureDocs.Proofs.Tree.Pages

/-!
# Where nodes are written

The write paths of a tree mirror the paths of its entries under the output root, except that a page
is written beside the place of its file, under the name of the file with the ending of pages. Hence
a page is written where an entry of that name would be, and if there is such an entry, the two meet.
Nothing else meets.

## Main definitions

* `DocTree.PageMeets`: the page of one node has the name of another

## Main results

* `TreeBuilder.components_writePath_along`, `TreeBuilder.components_page`: the components of write
  paths
* `SiteBuilder.write_paths_meet_iff`: which nodes have the same write path
-/

namespace FeatureDocs

/-- The page of one node has the name of another, which is no page: the path of the other is that of
the first with the ending of pages. -/
def DocTree.PageMeets (x y : DocTree) : Prop :=
  x.page?.isSome = true ∧ y.page? = none ∧ y.place.path = x.place.path.followedBy pageEnding

/-- The path of an entry that would be written where a node is: a page takes the place of an entry
with the ending of pages. -/
def DocTree.writtenAs (node : DocTree) : Path :=
  if node.page?.isSome then node.place.path.followedBy pageEnding else node.place.path

/-- Nodes of different entries take the same place only if a page meets an entry. -/
theorem DocTree.writtenAs_eq_iff {x y : DocTree} (h : x.place.path ≠ y.place.path) :
    x.writtenAs = y.writtenAs ↔ x.PageMeets y ∨ y.PageMeets x := by
  unfold writtenAs PageMeets
  cases hx : x.page? <;> cases hy : y.page?
  · simp [h]
  · simp [eq_comm]
  · simp [eq_comm]
  · -- Two pages have different names, since their files have.
    simpa [Path.followedBy] using fun heq => h (congrArg Path.mk heq)

namespace Path

/-! ## Paths that go on with names -/

theorem along_snoc (p : Path) (ns : List Name) (n : Name) :
    p.along (ns ++ [n]) = (p.along ns).entry n := by
  simp [along]

/-- Text behind one path from another. -/
theorem followedBy_join (p : Path) {q : Path} (hq : q.bytes ≠ []) (suffix : String) :
    (p.join q).followedBy suffix = p.join (q.followedBy suffix) := by
  have habs : (q.followedBy suffix).isAbsolute = q.isAbsolute := by
    rw [isAbsolute, isAbsolute, followedBy, List.head?_append_of_ne_nil _ hq]
  rw [join, join, habs]
  split
  · rfl
  · split <;> simp [followedBy]

/-- Text behind the path of an entry goes to its name. -/
theorem followedBy_entry (p : Path) {n : Name} (hn : isEntryName n = true) (suffix : String) :
    (p.entry n).followedBy suffix = p.entry (n ++ Utf8.encode suffix.toList) :=
  followedBy_join p (fun hnil => by simp [isEntryName, show n = [] from hnil] at hn) suffix

end Path

namespace TreeBuilder

variable {b : TreeBuilder} {disk : Disk}

/-! ## Write paths -/

/-- What is seen from the base directory has the components behind those of the base directory. -/
theorem components_seenFromBase {p : Path} (h : b.baseDirectory.components <+: p.components) :
    p.components = b.baseDirectory.components ++ (b.seenFromBase p).components ∧
      ∀ cs n, (b.seenFromBase p).components = cs ++ [.name n] → (b.seenFromBase p).EndsInName := by
  obtain ⟨q, hq⟩ := Option.isSome_iff_exists.mp (Path.isSome_stripPrefix? h)
  rw [seenFromBase, hq, Option.getD_some]
  exact Path.stripPrefix?_eq_some hq

/-- **The output has the shape of the source**: names behind a path stand behind its write path. -/
theorem components_writePath_along {p : Path} {ns : List Name}
    (h : b.baseDirectory.components <+: p.components) (hns : ∀ n ∈ ns, isEntryName n = true) :
    (b.place (p.along ns)).writePath.components =
      (b.place p).writePath.components ++ ns.map .name := by
  have halong := p.components_along hns
  obtain ⟨hp, -⟩ := components_seenFromBase h
  obtain ⟨hpns, -⟩ := components_seenFromBase (b := b) (p := p.along ns)
    (h.trans (halong ▸ List.prefix_append _ _))
  refine Path.components_join_append ?_ fun c hc => ?_
  · -- Both are seen behind the components of the base directory.
    rw [halong, hp, List.append_assoc] at hpns
    exact (List.append_cancel_left hpns).symm
  · obtain ⟨n, -, rfl⟩ := List.mem_map.mp hc
    rfl

theorem not_mem_pageEnding : slash ∉ Utf8.encode pageEnding.toList := by decide

/-- A page is written where an entry of its name would be. -/
theorem components_page {p : Path} {ns : List Name} {n : Name}
    (h : b.baseDirectory.components <+: p.components)
    (hns : ∀ m ∈ ns ++ [n], isEntryName m = true) :
    ((b.place (p.along (ns ++ [n]))).writePath.followedBy pageEnding).components =
      (b.place p).writePath.components ++
        (ns ++ [n ++ Utf8.encode pageEnding.toList]).map .name := by
  have hwrite := components_writePath_along h hns
  have hseen := components_seenFromBase (b := b) (p := p.along (ns ++ [n]))
    (h.trans (p.components_along hns ▸ List.prefix_append _ _))
  -- What is seen of the file ends with its name, and so does its write path.
  have hend : (b.place (p.along (ns ++ [n]))).writePath.EndsInName := by
    obtain ⟨hp, -⟩ := components_seenFromBase h
    obtain ⟨hpns, hname⟩ := hseen
    rw [p.components_along hns, hp, List.append_assoc] at hpns
    have hlast := (List.append_cancel_left hpns).symm
    rw [List.map_append, ← List.append_assoc] at hlast
    exact (hname _ n hlast).join b.outputRoot
  rw [List.map_append, ← List.append_assoc] at hwrite ⊢
  exact Path.components_followedBy hwrite hend not_mem_pageEnding

/-! ## Nodes -/

/-- A node is written for the entry at a path: it has the path, and the write path of that, with the
ending of pages if it is a page. A directory has no page. -/
def WrittenFor (b : TreeBuilder) (p : Path) (e : Entry) (node : DocTree) : Prop :=
  node.place.path = p ∧
    (node.page? = none ∧ node.place.writePath = (b.place p).writePath ∨
      node.page?.isSome = true ∧ e.isDirectory = false ∧
        node.place.writePath = (b.place p).writePath.followedBy pageEnding)

theorem MadeFor.writtenFor {p : Path} {e : Entry} {node : DocTree} (h : b.MadeFor p e node) :
    b.WrittenFor p e node := by
  cases h with
  | directory entries children => exact ⟨rfl, Or.inl ⟨rfl, rfl⟩⟩
  | feature d he => exact ⟨rfl, Or.inr ⟨rfl, he, rfl⟩⟩
  | file he => exact ⟨rfl, Or.inl ⟨rfl, rfl⟩⟩

/-- Every node is written for an entry below the path of the build. -/
theorem writtenFor_of_buildEntry {p : Path} {e : Entry} {tree node : DocTree}
    (h : b.buildEntry disk p e = .ok tree) (hnode : node ∈ tree.nodes) :
    ∃ ns d, (ns, d) ∈ e.descendants ∧ b.WrittenFor (p.along ns) d node := by
  obtain ⟨⟨ns, d⟩, hd, hmade⟩ := exists_partner (forall₂_madeFor h).flip hnode
  exact ⟨ns, d, hd, hmade.writtenFor⟩

/-- A node below a directory is written behind the write path of the directory, by the names of the
entry whose place it takes. -/
theorem components_of_writtenFor {p : Path} {entries : List (Name × Entry)} {ns : List Name}
    {d : Entry} {node : DocTree} (h : b.baseDirectory.components <+: p.components)
    (hwf : (Entry.directory entries).wellFormed = true)
    (hd : (ns, d) ∈ (Entry.directory entries).descendants)
    (hwritten : b.WrittenFor (p.along ns) d node) :
    ∃ ms, (∀ n ∈ ms, isEntryName n = true) ∧ node.writtenAs = p.along ms ∧
      node.place.writePath.components = (b.place p).writePath.components ++ ms.map .name := by
  have hns := Entry.isEntryName_of_mem_descendants hwf hd
  obtain ⟨hpath, ⟨hpage, hwrite⟩ | ⟨hpage, hfile, hwrite⟩⟩ := hwritten
  · refine ⟨ns, hns, ?_, ?_⟩
    · simp [DocTree.writtenAs, hpage, hpath]
    · rw [hwrite, components_writePath_along h hns]
  · -- A page belongs to no directory, so it has a name.
    obtain ⟨front, n, rfl⟩ : ∃ front n, ns = front ++ [n] := by
      rcases List.eq_nil_or_concat' ns with rfl | ⟨front, n, rfl⟩
      · rw [Entry.mem_descendants_iff hwf] at hd
        obtain rfl := Except.ok.inj hd
        simp [Entry.isDirectory] at hfile
      · exact ⟨front, n, rfl⟩
    obtain ⟨hfront, hn⟩ := List.forall_mem_append.mp hns
    have hn := hn n (List.mem_singleton_self n)
    refine ⟨front ++ [n ++ Utf8.encode pageEnding.toList], ?_, ?_, ?_⟩
    · refine List.forall_mem_append.mpr ⟨hfront, fun m hm => ?_⟩
      rw [List.mem_singleton.mp hm]
      exact Path.isEntryName_append hn not_mem_pageEnding
    · rw [DocTree.writtenAs, if_pos hpage, hpath, Path.along_snoc, Path.followedBy_entry _ hn,
        Path.along_snoc]
    · rw [hwrite, components_page h hns]

/-- Two nodes have the same write path exactly if the page of one has the name of the other. -/
theorem pairwise_writePath {p : Path} {tree : DocTree} (hdisk : disk.root.wellFormed = true)
    (hbase : b.baseDirectory.components <+: p.components) (h : b.build disk p = .ok tree) :
    tree.nodes.Pairwise fun x y =>
      (x.place.writePath.components = y.place.writePath.components ↔
        x.PageMeets y ∨ y.PageMeets x) := by
  have hpaths := paths_of_nodes hdisk h
  unfold build at h
  cases hp : disk.inspect p with
  | error cause => simp [hp] at h
  | ok found =>
    obtain ⟨place, e⟩ := found
    rw [hp] at h
    rcases buildEntry_cases h with ⟨-, -, hnodes, -⟩ | ⟨entries, children, rfl, -, -⟩
    · rw [hnodes]
      exact List.pairwise_singleton _ _
    have hwf := Entry.wellFormed_descend hdisk (Disk.inspect_eq_ok_iff.mp hp).1.2
    -- Different nodes have different paths.
    have hne : tree.nodes.Pairwise fun x y => x.place.path ≠ y.place.path :=
      List.pairwise_map.mp (hpaths ▸ Disk.nodup_visits hdisk)
    refine hne.imp_of_mem fun {x y} hx hy hxy => ?_
    obtain ⟨ns, d, hd, hwx⟩ := writtenFor_of_buildEntry h hx
    obtain ⟨ns', d', hd', hwy⟩ := writtenFor_of_buildEntry h hy
    obtain ⟨ms, hms, hax, hcx⟩ := components_of_writtenFor hbase hwf hd hwx
    obtain ⟨ms', hms', hay, hcy⟩ := components_of_writtenFor hbase hwf hd' hwy
    rw [← DocTree.writtenAs_eq_iff hxy, hax, hay, hcx, hcy, List.append_cancel_left_eq]
    -- Names can be read off components.
    constructor
    · intro hnames
      rw [List.map_injective_iff.mpr (fun _ _ => Component.name.inj) hnames]
    · intro hsame
      have hcomponents := congrArg Path.components hsame
      rwa [p.components_along hms, p.components_along hms', List.append_cancel_left_eq]
        at hcomponents

end TreeBuilder

/-! ## Sites -/

/-- A directory with a feature file and a file of the name of its page. -/
def namesakes : Disk :=
  sampleDisk [(Utf8.encode "a.feature".toList, .file (Utf8.encode "Feature: A".toList)),
    (Utf8.encode "a.feature.html".toList, .file [])]

theorem inspect_namesakes : namesakes.inspect (.ofString "d") =
    .ok ([Utf8.encode "d".toList], .directory
      [(Utf8.encode "a.feature".toList, .file (Utf8.encode "Feature: A".toList)),
        (Utf8.encode "a.feature.html".toList, .file [])]) :=
  inspect_sampleDisk _

/-- The feature file among them. -/
theorem finds_namesake : namesakes.Finds (.ofString "d/a.feature")
    [Utf8.encode "d".toList, Utf8.encode "a.feature".toList]
    (.file (Utf8.encode "Feature: A".toList)) := by
  have hfinds := (Disk.inspect_eq_ok_iff.mp inspect_namesakes).1
  exact hfinds.entry (by decide) List.mem_cons_self

/-- The site of that directory: the page of its second node has the name of the third. -/
theorem SiteBuilder.site_of_namesakes : ∃ site x y z,
    unmatching.build namesakes (.ofString "d") (.ofString "o") = .ok site ∧
      site.root.nodes = [x, y, z] ∧ y.PageMeets z := by
  have hdisk : namesakes.root.wellFormed = true := by decide
  have hvisits : namesakes.visits (.ofString "d") =
      [.ofString "d", .ofString "d/a.feature", .ofString "d/a.feature.html"] := by
    rw [Disk.visits_eq inspect_namesakes]
    decide
  obtain ⟨site, hbuild⟩ : ∃ site,
      unmatching.build namesakes (.ofString "d") (.ofString "o") = .ok site :=
    exists_site hdisk inspect_namesakes
      (by simp [Entry.descendants, Entry.descendantsOfAll, Entry.descendantsNamed])
      fun _ => ⟨_, rfl⟩
  have haccounts := TreeBuilder.build_accountsFor
    (b := unmatching.treeBuilder (.ofString "d") (.ofString "o")) hdisk (.ofString "d")
  rw [(build_eq_ok_iff.mp hbuild).1, hvisits] at haccounts
  obtain ⟨-, hnodes⟩ := haccounts
  generalize hall : site.root.nodes = nodes at hnodes
  rcases hnodes with _ | ⟨-, _ | ⟨hy, _ | ⟨hz, ⟨⟩⟩⟩⟩
  refine ⟨site, _, _, _, hbuild, hall, ?_, ?_, ?_⟩
  · -- The text of the feature file is that of a feature.
    have hinspected := Disk.inspect_eq_ok_iff.mpr ⟨finds_namesake, by simp⟩
    exact hy.feature_iff.mpr ⟨⟨_, _, hinspected, rfl⟩,
      exists_readsAs (.ofString "d") (.ofString "o") finds_namesake (by decide +kernel)⟩
  · -- The file beside it has another ending.
    have hname : isFeatureName (shownName (.ofString "d/a.feature.html")) = false := by
      decide +kernel
    rw [← Option.not_isSome_iff_eq_none]
    intro hpage
    obtain ⟨-, _, hfeature, -⟩ := hz.feature_iff.mp hpage
    simp [hname] at hfeature
  · rw [hy.path_eq, hz.path_eq]
    decide

/-- **Only pages meet.**

Two nodes of a site have the same write path, as far as the components of paths tell, exactly if one
of them is the page of a feature file and the other, which is no page, has the name of that page and
lies in the same directory. -/
theorem SiteBuilder.write_paths_meet_iff {p : SiteBuilder} {disk : Disk} {root output : Path}
    {site : Site} (hdisk : disk.root.wellFormed = true) (h : p.build disk root output = .ok site) :
    site.root.nodes.Pairwise fun x y =>
      (x.place.writePath.components = y.place.writePath.components ↔
        x.PageMeets y ∨ y.PageMeets x) :=
  TreeBuilder.pairwise_writePath hdisk (base_of_treeBuilder p root output) (build_eq_ok_iff.mp h).1

/-- In the site of that directory the page and the file beside it have the same write path. -/
theorem SiteBuilder.namesakes_meet : namesakes.root.wellFormed = true ∧
    ∃ site x y z, unmatching.build namesakes (.ofString "d") (.ofString "o") = .ok site ∧
      site.root.nodes = [x, y, z] ∧
      y.place.writePath.components = z.place.writePath.components := by
  have hdisk : namesakes.root.wellFormed = true := by decide
  obtain ⟨site, x, y, z, hbuild, hnodes, hmeets⟩ := site_of_namesakes
  refine ⟨hdisk, site, x, y, z, hbuild, hnodes, ?_⟩
  have hpairs := write_paths_meet_iff hdisk hbuild
  rw [hnodes, List.pairwise_cons, List.pairwise_cons] at hpairs
  exact (hpairs.2.1 z (List.mem_singleton_self z)).mpr (Or.inl hmeets)

/-- Not all nodes of a site have write paths of their own. -/
theorem SiteBuilder.exists_shared_write_path : ∃ site,
    unmatching.build namesakes (.ofString "d") (.ofString "o") = .ok site ∧
      ¬ site.root.nodes.Pairwise fun x y =>
        x.place.writePath.components ≠ y.place.writePath.components := by
  obtain ⟨site, x, y, z, hbuild, hnodes, hmeets⟩ := site_of_namesakes
  refine ⟨site, hbuild, fun hown => ?_⟩
  have hpairs := TreeBuilder.pairwise_writePath (by decide) (base_of_treeBuilder ..)
    (build_eq_ok_iff.mp hbuild).1
  rw [hnodes, List.pairwise_cons, List.pairwise_cons] at hown hpairs
  have hz := List.mem_singleton_self z
  exact hown.2.1 z hz ((hpairs.2.1 z hz).mpr (Or.inl hmeets))

end FeatureDocs
