import FeatureDocs.Proofs.Disk.FileName
import FeatureDocs.Proofs.Path.OfString
import FeatureDocs.Proofs.Tree.WritePath
import Mathlib.Data.List.ModifyLast

/-!
# Locations mirror the source

All that a node tells about its location comes from one sequence of components: the last component
of the root, and behind it the names that lead to the entry. The write path puts them behind the
output root, the name in a table of contents and the link show the names among them, and the way
back takes one step for each but the last. If the root has a file name, they are all names, so the
four agree. Only behind an empty output root the link is not spelled as the write path, because the
`.` at its beginning stays.

## Main definitions

* `DocTree.SeenAs`: what a node tells about the components of its location
* `DocTree.LiesAt`: what it tells if they are the names of some texts

## Main results

* `SiteBuilder.seenAs`: the components of the location of each node of a site
* `SiteBuilder.locations_mirror_source`: the locations of a site whose root has a file name
-/

namespace FeatureDocs

namespace Component

/-- The name of a component as it is shown, if it is one. -/
def shown? : Component → Option String
  | name n => some (Path.displayName n)
  | _ => none

/-- The names among components as they are shown, with `/` between them. -/
def shownNames (cs : List Component) : String := String.intercalate "/" (cs.filterMap shown?)

/-- The last component of a page: a name has the ending of pages behind it. -/
def ofPage : Component → Component
  | name n => name (n ++ Utf8.encode pageEnding.toList)
  | c => c

theorem shownNames_texts (texts : List String) :
    shownNames (texts.map ofText) = String.intercalate "/" texts := by
  have hshown : ∀ s, shown? (ofText s) = some s := fun s => congrArg some (displayName_encode s)
  rw [shownNames, List.filterMap_map, Function.comp_def]
  simp only [hshown, List.filterMap_some]

/-- The names of a page. -/
theorem modifyLast_ofPage (texts : List String) :
    (texts.map ofText).modifyLast ofPage = (texts.modifyLast (· ++ pageEnding)).map ofText := by
  rcases List.eq_nil_or_concat' texts with rfl | ⟨front, s, rfl⟩
  · rfl
  · have hlast : ofText (s ++ pageEnding) = ofPage (ofText s) := by
      rw [ofText, String.toList_append, Utf8.encode_append]
      rfl
    rw [List.map_append, List.map_singleton, List.modifyLast_concat, ← hlast,
      List.modifyLast_concat, List.map_append, List.map_singleton]

end Component

namespace Path

/-- Text behind texts with slashes between them goes to the last one. -/
theorem intercalate_append {texts : List String} (h : texts ≠ []) (suffix : String) :
    String.intercalate "/" texts ++ suffix =
      String.intercalate "/" (texts.modifyLast (· ++ suffix)) := by
  rcases List.eq_nil_or_concat' texts with rfl | ⟨front, s, rfl⟩
  · simp at h
  · rw [List.modifyLast_concat]
    cases front with
    | nil => simp
    | cons t front =>
      rw [String.intercalate_append_of_ne_nil (List.cons_ne_nil t front) (List.cons_ne_nil _ _),
        String.intercalate_append_of_ne_nil (List.cons_ne_nil t front) (List.cons_ne_nil _ _),
        String.intercalate_singleton, String.intercalate_singleton, String.append_assoc]

/-- The texts of a page are names if those of its file are. -/
theorem isEntryName_modifyLast {texts : List String}
    (h : ∀ s ∈ texts, isEntryName (Utf8.encode s.toList) = true) :
    ∀ s ∈ texts.modifyLast (· ++ pageEnding), isEntryName (Utf8.encode s.toList) = true := by
  rcases List.eq_nil_or_concat' texts with rfl | ⟨front, s, rfl⟩
  · exact fun s hs => absurd hs List.not_mem_nil
  · obtain ⟨hfront, hs⟩ := List.forall_mem_append.mp h
    rw [List.modifyLast_concat]
    refine List.forall_mem_append.mpr ⟨hfront, fun t ht => ?_⟩
    rw [List.mem_singleton.mp ht, String.toList_append, Utf8.encode_append]
    exact isEntryName_append (hs s (List.mem_singleton_self s)) TreeBuilder.not_mem_pageEnding

/-- The components of a link. -/
theorem components_link {texts : List String} (hne : texts ≠ [])
    (h : ∀ s ∈ texts, isEntryName (Utf8.encode s.toList) = true) :
    (ofString ("./" ++ String.intercalate "/" texts ++ pageEnding)).components =
      .here :: (texts.modifyLast (· ++ pageEnding)).map Component.ofText := by
  rw [String.append_assoc, intercalate_append hne]
  refine components_ofString_here ?_ (isEntryName_modifyLast h)
  rcases List.eq_nil_or_concat' texts with rfl | ⟨front, s, rfl⟩
  · exact absurd rfl hne
  · simp [List.modifyLast_concat]

/-- Components of pieces stand behind those of the path before them. -/
theorem components_join_of_pieces (p : Path) {q : Path}
    (hq : ∀ c ∈ q.components, c.isOfPiece = true) :
    (p.join q).components = p.components ++ q.components := by
  have hempty : (p.join ⟨[]⟩).components = p.components := by
    by_cases hp : p.bytes = []
    · obtain rfl : p = ⟨[]⟩ := congrArg Path.mk hp
      rfl
    · rw [components_join hp rfl]
      exact List.append_nil _
  -- The path is put together as one that goes on behind the empty path.
  rw [← hempty]
  exact components_join_append (q := ⟨[]⟩) rfl hq

end Path

/-! ## What nodes tell -/

/-- What a node tells about its location, by the components that are seen of the path of its entry:
the path behind the output root, the names as they are shown, and the steps back. -/
structure DocTree.SeenAs (output : Path) (seen : List Component) (node : DocTree) : Prop where
  writePath_eq : ∃ q, node.place.writePath = output.join q ∧
    q.components = if node.page?.isSome then seen.modifyLast Component.ofPage else seen
  tocName_eq : ∀ place tocName children, node = .directory place tocName children →
    tocName = Component.shownNames seen
  link_eq : ∀ page, node.page? = some page →
    page.link = "./" ++ Component.shownNames seen ++ pageEnding
  rootFolder_eq : ∀ page, node.page? = some page →
    page.rootFolder = String.join (List.replicate (seen.length - 1) "../")

theorem wayUp_eq (p : Path) :
    wayUp p = String.join (List.replicate (p.components.length - 1) "../") := by
  rw [wayUp, p.length_components_parent?]

/-- A node tells what is seen of the path of its entry, if a page has a name. -/
theorem TreeBuilder.MadeFor.seenAs {b : TreeBuilder} {p : Path} {e : Entry} {node : DocTree}
    (h : b.MadeFor p e node) (hbase : b.baseDirectory.components <+: p.components)
    (hname : e.isDirectory = false →
      ∃ front n, (b.seenFromBase p).components = front ++ [.name n]) :
    node.SeenAs b.outputRoot (b.seenFromBase p).components := by
  cases h with
  | directory entries children =>
    exact ⟨⟨_, rfl, rfl⟩, fun _ _ _ hnode => (DocTree.directory.inj hnode).2.1.symm,
      fun _ hpage => by simp [directoryNode, DocTree.page?] at hpage,
      fun _ hpage => by simp [directoryNode, DocTree.page?] at hpage⟩
  | file he =>
    exact ⟨⟨_, rfl, rfl⟩, fun _ _ _ hnode => by simp at hnode,
      fun _ hpage => by simp [DocTree.page?] at hpage,
      fun _ hpage => by simp [DocTree.page?] at hpage⟩
  | feature d he =>
    obtain ⟨front, n, hseen⟩ := hname he
    -- What is seen of the file ends with its name, which takes the ending of pages.
    have hend := (components_seenFromBase hbase).2 front n hseen
    have hne : (b.seenFromBase p).bytes ≠ [] := fun hnil => by
      simp [Path.components_of_empty hnil] at hseen
    refine ⟨⟨_, Path.followedBy_join _ hne _, ?_⟩, fun _ _ _ hnode => ?_, fun page hpage => ?_,
      fun page hpage => ?_⟩
    · rw [Path.components_followedBy hseen hend not_mem_pageEnding, hseen, List.modifyLast_concat]
      rfl
    · simp [featureNode] at hnode
    · obtain rfl := Option.some.inj hpage
      rfl
    · obtain rfl := Option.some.inj hpage
      exact wayUp_eq _

namespace SiteBuilder

variable {p : SiteBuilder} {disk : Disk} {root output : Path} {site : Site}

/-- **The location of each node of a site** is seen as the last component of the root and the names
that lead on to the entry. A page is seen with a name at the end. -/
theorem seenAs (hdisk : disk.root.wellFormed = true) (h : p.build disk root output = .ok site) :
    ∃ place e c, disk.inspect root = .ok (place, e) ∧ root.components.getLast? = some c ∧
      List.Forall₂ (fun x node => (∀ n ∈ x.1, isEntryName n = true) ∧
          node.SeenAs output (c :: x.1.map .name) ∧
          (node.page?.isSome = true → (∃ n, c = .name n) ∨ x.1 ≠ []))
        e.descendants site.root.nodes := by
  have htree := (build_eq_ok_iff.mp h).1
  cases hroot : disk.inspect root with
  | error cause => simp [TreeBuilder.build_of_inspect_error hroot] at htree
  | ok found =>
    obtain ⟨place, e⟩ := found
    obtain ⟨hfinds, -⟩ := Disk.inspect_eq_ok_iff.mp hroot
    have hwf := Entry.wellFormed_descend hdisk hfinds.2
    rw [TreeBuilder.build_of_inspect hroot] at htree
    obtain ⟨c, hc⟩ := Path.exists_components_parent? hfinds.bytes_ne_nil
    refine ⟨place, e, c, rfl, by rw [hc, List.getLast?_concat], ?_⟩
    have hmade := (List.forall₂_and_left _ _).mpr
      ⟨fun x hx => hx, TreeBuilder.forall₂_madeFor htree⟩
    refine hmade.imp fun ⟨ns, d⟩ node hnode => ?_
    obtain ⟨hmem, hnode⟩ := hnode
    have hns := Entry.isEntryName_of_mem_descendants hwf hmem
    have halong := root.components_along hns
    have hbase : (p.treeBuilder root output).baseDirectory.components <+:
        (root.along ns).components :=
      (base_of_treeBuilder p root output).trans (halong ▸ List.prefix_append _ _)
    -- The base directory has all components of the root but the last one.
    have hseen : ((p.treeBuilder root output).seenFromBase (root.along ns)).components =
        c :: ns.map .name := by
      have hall := (TreeBuilder.components_seenFromBase hbase).1
      rw [halong, hc, List.append_assoc] at hall
      exact (List.append_cancel_left hall).symm
    -- A root without a file name leads to a directory, so a file behind it has a name of its own.
    have hlast : d.isDirectory = false → (∃ n, c = .name n) ∨ ns ≠ [] := by
      intro hfile
      by_cases hnil : ns = []
      · subst hnil
        obtain rfl : e = d := by
          have hd := (Entry.mem_descendants_iff hwf).mp hmem
          exact Except.ok.inj hd
        cases hn : root.fileName? with
        | none => simp [hfinds.isDirectory_of_fileName?_eq_none hn] at hfile
        | some n =>
          rw [Path.fileName?_eq_some_iff, hc, List.getLast?_concat] at hn
          exact Or.inl ⟨n, Option.some.inj hn⟩
      · exact Or.inr hnil
    refine ⟨hns, hseen ▸ hnode.seenAs hbase fun hfile => ?_, fun hpage => ?_⟩
    · rw [hseen]
      rcases List.eq_nil_or_concat' ns with rfl | ⟨front, n, rfl⟩
      · obtain ⟨n, rfl⟩ := (hlast hfile).resolve_right (by simp)
        exact ⟨[], n, rfl⟩
      · exact ⟨c :: front.map .name, n, by simp⟩
    · refine hlast ?_
      cases hnode with
      | directory => simp [TreeBuilder.directoryNode, DocTree.page?] at hpage
      | feature _ hfile | file hfile => exact hfile

end SiteBuilder

/-! ## Roots with a file name -/

/-- What a node tells about its location if the names of some texts lead to it: it is written under
the output root by these names, and a page by the last one with the ending of pages; and the name in
a table of contents and the link are the texts with slashes between them. -/
structure DocTree.LiesAt (output : Path) (texts : List String) (node : DocTree) : Prop where
  writePath_eq : node.place.writePath.components = output.components ++
    (if node.page?.isSome then texts.modifyLast (· ++ pageEnding) else texts).map Component.ofText
  tocName_eq : ∀ place tocName children, node = .directory place tocName children →
    tocName = String.intercalate "/" texts
  link_eq : ∀ page, node.page? = some page →
    page.link = "./" ++ String.intercalate "/" texts ++ pageEnding

/-- What is seen as names tells where a node lies. -/
theorem DocTree.SeenAs.liesAt {output : Path} {texts : List String} {node : DocTree}
    (h : node.SeenAs output (texts.map Component.ofText)) : node.LiesAt output texts where
  writePath_eq := by
    obtain ⟨q, hq, hcomponents⟩ := h.writePath_eq
    rw [Component.modifyLast_ofPage, ← apply_ite (List.map Component.ofText)] at hcomponents
    rw [hq, Path.components_join_of_pieces, hcomponents]
    rw [hcomponents]
    intro c hc
    obtain ⟨s, -, rfl⟩ := List.mem_map.mp hc
    rfl
  tocName_eq place tocName children hnode := by
    rw [h.tocName_eq place tocName children hnode, Component.shownNames_texts]
  link_eq page hpage := by rw [h.link_eq page hpage, Component.shownNames_texts]

/-- The link of a page, seen from the output root: the `.` at its beginning stays behind an empty
output root, and is no component behind any other. -/
theorem DocTree.LiesAt.components_link {output : Path} {texts : List String} {node : DocTree}
    {page : FeaturePage} (h : node.LiesAt output texts) (hne : texts ≠ [])
    (htexts : ∀ s ∈ texts, isEntryName (Utf8.encode s.toList) = true)
    (hpage : node.page? = some page) :
    (output.join (.ofString page.link)).components =
      (if output.bytes = [] then [.here] else []) ++ node.place.writePath.components := by
  have hsome : node.page?.isSome = true := by simp [hpage]
  have hwrite := h.writePath_eq
  rw [if_pos hsome] at hwrite
  rw [h.link_eq page hpage, Path.components_join_here output (Path.components_link hne htexts),
    hwrite]
  -- An empty output root has no components before the `.` of the link.
  split
  · rename_i hempty
    rw [Path.components_of_empty hempty, List.nil_append]
  · rw [List.nil_append]

/-- **The link of a page leads from the output root to the page.** It is spelled as the write path
unless the output root is empty. -/
theorem DocTree.LiesAt.link_iff {output : Path} {texts : List String} {node : DocTree}
    {page : FeaturePage} (h : node.LiesAt output texts) (hne : texts ≠ [])
    (htexts : ∀ s ∈ texts, isEntryName (Utf8.encode s.toList) = true)
    (hpage : node.page? = some page) :
    ((output.join (.ofString page.link)).components = node.place.writePath.components ↔
        output.bytes ≠ []) ∧
      (output.join (.ofString page.link)).resolved = node.place.writePath.resolved := by
  have hlink := h.components_link hne htexts hpage
  rw [Path.resolved, Path.resolved, hlink]
  by_cases hempty : output.bytes = []
  · simp only [hempty, if_true, List.singleton_append, ne_eq, not_true, iff_false]
    -- The `.` is one more component, and leads nowhere.
    exact ⟨List.cons_ne_self _ _, rfl⟩
  · simp [hempty]

namespace SiteBuilder

variable {p : SiteBuilder} {disk : Disk} {root output : Path} {site : Site} {n₀ : Name}

/-- The nodes of a site lie where the names of their entries lead to. -/
theorem liesAt_of_build (hdisk : disk.root.wellFormed = true)
    (htexts : ∀ x ∈ disk.root.descendants, ∀ n ∈ x.1, ∃ s : String, n = Utf8.encode s.toList)
    (hroot : root.fileName? = some n₀) (h : p.build disk root output = .ok site) :
    ∃ place e, disk.inspect root = .ok (place, e) ∧
      List.Forall₂ (fun x node => ∃ texts : List String,
          n₀ :: x.1 = texts.map (fun s => Utf8.encode s.toList) ∧
            (∀ s ∈ texts, isEntryName (Utf8.encode s.toList) = true) ∧ node.LiesAt output texts)
        e.descendants site.root.nodes := by
  obtain ⟨place, e, c, hinspect, hc, hnodes⟩ := seenAs hdisk h
  obtain ⟨hfinds, -⟩ := Disk.inspect_eq_ok_iff.mp hinspect
  have hwf := Entry.wellFormed_descend hdisk hfinds.2
  obtain rfl : c = .name n₀ := by
    rw [Path.fileName?_eq_some_iff, hc] at hroot
    exact Option.some.inj hroot
  -- The file name of the root is that of an entry, too.
  obtain ⟨dir, d₀, hd₀⟩ := hfinds.exists_named hroot
  have hmem₀ := (Entry.mem_descendants_iff hdisk).mpr hd₀
  have hname₀ := Entry.isEntryName_of_mem_descendants hdisk hmem₀ n₀ (by simp)
  refine ⟨place, e, hinspect, ?_⟩
  refine ((List.forall₂_and_left _ _).mpr ⟨fun x hx => hx, hnodes⟩).imp fun ⟨ns, d⟩ node hx => ?_
  obtain ⟨hmem, hns, hseen, -⟩ := hx
  -- What is below the root is below the top of the disk.
  have hmem' : (place ++ ns, d) ∈ disk.root.descendants := by
    rw [Entry.mem_descendants_iff hdisk, Entry.descend_append, hfinds.2]
    exact (Entry.mem_descendants_iff hwf).mp hmem
  -- All names are those of texts, which show them.
  have hshown : ∀ n ∈ n₀ :: ns, Utf8.encode (Path.displayName n).toList = n := by
    intro n hn
    obtain ⟨s, rfl⟩ : ∃ s : String, n = Utf8.encode s.toList := by
      rcases List.mem_cons.mp hn with rfl | hn
      · exact htexts _ hmem₀ n (by simp)
      · exact htexts _ hmem' n (by simp [hn])
    rw [displayName_encode]
  have hnames : n₀ :: ns =
      ((n₀ :: ns).map Path.displayName).map fun s => Utf8.encode s.toList := by
    rw [List.map_map]
    exact ((List.map_congr_left hshown).trans (List.map_id _)).symm
  refine ⟨_, hnames, fun s hs => ?_, DocTree.SeenAs.liesAt ?_⟩
  · obtain ⟨n, hn, rfl⟩ := List.mem_map.mp hs
    rw [hshown n hn]
    rcases List.mem_cons.mp hn with rfl | hn
    · exact hname₀
    · exact hns n hn
  · have hcomponents : Component.name n₀ :: ns.map Component.name =
        ((n₀ :: ns).map Path.displayName).map Component.ofText := by
      rw [← List.map_cons]
      conv_lhs => rw [hnames]
      rw [List.map_map]
      rfl
    rwa [← hcomponents]

/-- The links of the pages of a site. -/
theorem link_iff_of_build (hdisk : disk.root.wellFormed = true)
    (htexts : ∀ x ∈ disk.root.descendants, ∀ n ∈ x.1, ∃ s : String, n = Utf8.encode s.toList)
    (hroot : root.fileName? = some n₀) (h : p.build disk root output = .ok site) {node : DocTree}
    (hnode : node ∈ site.root.nodes) {page : FeaturePage} (hpage : node.page? = some page) :
    ((output.join (.ofString page.link)).components = node.place.writePath.components ↔
        output.bytes ≠ []) ∧
      (output.join (.ofString page.link)).resolved = node.place.writePath.resolved := by
  obtain ⟨place, e, -, hlies⟩ := liesAt_of_build hdisk htexts hroot h
  obtain ⟨x, -, texts, hx, hnames, hlies⟩ := exists_partner hlies.flip hnode
  have hne : texts ≠ [] := by
    rintro rfl
    simp at hx
  exact hlies.link_iff hne hnames hpage

/-- **Locations mirror the source.**

If the root has a file name and the names on the disk are texts, then the node of each entry lies
under the output root at the names that lead to the entry, with the file name of the root in front,
however the root and the output root are spelled. The link of a page leads from the output root to
where the page is written, and exactly behind an empty output root the two are spelled
differently. -/
theorem locations_mirror_source (hdisk : disk.root.wellFormed = true)
    (htexts : ∀ x ∈ disk.root.descendants, ∀ n ∈ x.1, ∃ s : String, n = Utf8.encode s.toList)
    (hroot : root.fileName? = some n₀) (h : p.build disk root output = .ok site) :
    (∃ place e, disk.inspect root = .ok (place, e) ∧
      List.Forall₂ (fun x node => ∃ texts : List String,
          n₀ :: x.1 = texts.map (fun s => Utf8.encode s.toList) ∧ node.LiesAt output texts)
        e.descendants site.root.nodes) ∧
      ∀ node ∈ site.root.nodes, ∀ page, node.page? = some page →
        ((output.join (.ofString page.link)).components = node.place.writePath.components ↔
            output.bytes ≠ []) ∧
          (output.join (.ofString page.link)).resolved = node.place.writePath.resolved := by
  obtain ⟨place, e, hinspect, hlies⟩ := liesAt_of_build hdisk htexts hroot h
  refine ⟨⟨place, e, hinspect, hlies.imp ?_⟩,
    fun node hnode page hpage => link_iff_of_build hdisk htexts hroot h hnode hpage⟩
  exact fun x node ⟨texts, hx, _, hnode⟩ => ⟨texts, hx, hnode⟩

theorem texts_of_namesakes : ∀ x ∈ namesakes.root.descendants, ∀ n ∈ x.1,
    ∃ s : String, n = Utf8.encode s.toList := by
  have hnames : ∀ x ∈ namesakes.root.descendants, ∀ n ∈ x.1,
      n ∈ ["d", "a.feature", "a.feature.html"].map fun s => Utf8.encode s.toList := by decide
  intro x hx n hn
  obtain ⟨s, -, hs⟩ := List.mem_map.mp (hnames x hx n hn)
  exact ⟨s, hs.symm⟩

/-- The page of a feature file in a directory, and its link. -/
theorem namesake_lies_at : ∃ site x y z,
    unmatching.build namesakes (.ofString "d") (.ofString "o") = .ok site ∧
      site.root.nodes = [x, y, z] ∧ y.LiesAt (.ofString "o") ["d", "a.feature"] ∧
      ∃ page, y.page? = some page ∧
        ((Path.ofString "o").join (.ofString page.link)).components =
          y.place.writePath.components := by
  obtain ⟨site, x, y, z, hbuild, hnodes, hpage, -⟩ := site_of_namesakes
  have hroot : (Path.ofString "d").fileName? = some (Utf8.encode "d".toList) := by decide
  obtain ⟨⟨place, e, hinspect, hlies⟩, hlinks⟩ :=
    locations_mirror_source (by decide) texts_of_namesakes hroot hbuild
  obtain ⟨-, rfl⟩ := Prod.mk.inj (Except.ok.inj (inspect_namesakes.symm.trans hinspect))
  rw [hnodes, Entry.descendants, List.forall₂_cons] at hlies
  -- The second node is that of the first entry of the directory.
  obtain ⟨-, hentries⟩ := hlies
  obtain ⟨texts, hnames, hy⟩ := (List.forall₂_cons.mp hentries).1
  obtain rfl : ["d", "a.feature"] = texts :=
    List.map_injective_iff.mpr (fun _ _ h => String.toList_inj.mp (Utf8.encode_injective h)) hnames
  obtain ⟨page, hpage⟩ := Option.isSome_iff_exists.mp hpage
  have hlink := hlinks y (by simp [hnodes]) page hpage
  exact ⟨site, x, y, z, hbuild, hnodes, hy, page, hpage, hlink.1.mpr (by decide)⟩

/-- Behind an empty output root the link of a page is not spelled as its write path. -/
theorem link_behind_empty_root :
    (Path.ofString "d").fileName? = some (Utf8.encode "d".toList) ∧ ∃ site,
      unmatching.build namesakes (.ofString "d") (.ofString "") = .ok site ∧
        ¬ ∀ node ∈ site.root.nodes, ∀ page, node.page? = some page →
          ((Path.ofString "").join (.ofString page.link)).components =
            node.place.writePath.components := by
  have hdisk : namesakes.root.wellFormed = true := by decide
  have hroot : (Path.ofString "d").fileName? = some (Utf8.encode "d".toList) := by decide
  obtain ⟨site, hbuild⟩ : ∃ site,
      unmatching.build namesakes (.ofString "d") (.ofString "") = .ok site :=
    exists_site hdisk inspect_namesakes
      (by simp [Entry.descendants, Entry.descendantsOfAll, Entry.descendantsNamed])
      fun _ => ⟨_, rfl⟩
  refine ⟨hroot, site, hbuild, fun hall => ?_⟩
  obtain ⟨d, hd⟩ := exists_readsAs (.ofString "d") (.ofString "") finds_namesake (by decide +kernel)
  have hvisit : .ofString "d/a.feature" ∈ namesakes.visits (.ofString "d") := by
    rw [Disk.visits_eq inspect_namesakes]
    decide
  obtain ⟨node, hnode, page, hpage⟩ := TreeBuilder.exists_page hdisk (build_eq_ok_iff.mp hbuild).1
    hvisit (Disk.inspect_eq_ok_iff.mpr ⟨finds_namesake, by simp⟩) rfl hd
  have hlink := link_iff_of_build hdisk texts_of_namesakes hroot hbuild hnode hpage
  exact hlink.1.mp (hall node hnode page hpage) rfl

end SiteBuilder

end FeatureDocs
