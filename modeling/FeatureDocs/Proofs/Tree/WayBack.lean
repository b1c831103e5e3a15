import FeatureDocs.Proofs.Tree.Location

/-!
# The way back from a page

A page tells its link from the output root and the way back to it. The link shows the names among
the components that are seen of the file, while the way back takes a step for each component above
it. The only component that may be no name is the last one of the root. So the way back leads to the
output root exactly if the root has a file name; otherwise it goes one step too far.

## Main definitions

* `FeaturePage.LeadsBack`: the way back fits the link

## Main results

* `SiteBuilder.leads_back_iff`: the pages of a site that lead back
-/

namespace FeatureDocs

/-- The directories of a link: its parts between slashes, behind the `./` at its beginning, but for
the last one. -/
def linkLevels (link : String) : Nat := ((link.toList.drop 2).splitOn '/').length - 1

/-- The way back of a page has a step for each directory of its link, so from the directory of the
page it ends at the output root. -/
structure FeaturePage.LeadsBack (page : FeaturePage) (output : Path) : Prop where
  rootFolder_eq : page.rootFolder = String.join (List.replicate (linkLevels page.link) "../")
  resolved_eq : ∃ directory, (output.join (.ofString page.link)).parent? = some directory ∧
    (directory.join (.ofString page.rootFolder)).resolved = output.resolved

/-! ## Links -/

/-- A link has a directory for each of its names but the last. -/
theorem linkLevels_eq {texts : List String} (hne : texts ≠ [])
    (h : ∀ s ∈ texts, isEntryName (Utf8.encode s.toList) = true) :
    linkLevels ("./" ++ String.intercalate "/" texts ++ pageEnding) = texts.length - 1 := by
  have hslash : ∀ l ∈ (texts.modifyLast (· ++ pageEnding)).map String.toList, '/' ∉ l := by
    rw [List.forall_mem_map]
    exact fun s hs hmem => not_mem_of_isEntryName (Path.isEntryName_modifyLast h s hs)
      (Utf8.slash_mem_encode_iff.mpr hmem)
  rw [linkLevels, String.append_assoc, Path.intercalate_append hne, String.toList_append,
    String.toList_intercalate]
  change (List.splitOn '/' (List.intercalate ['/'] _)).length - 1 = _
  rcases List.eq_nil_or_concat' texts with rfl | ⟨front, s, rfl⟩
  · exact absurd rfl hne
  · rw [List.modifyLast_concat] at hslash ⊢
    rw [List.splitOn_intercalate '/' hslash (by simp)]
    simp

theorem join_replicate_up_inj {j k : Nat} : String.join (List.replicate j "../") =
    String.join (List.replicate k "../") ↔ j = k := by
  refine ⟨fun h => ?_, fun h => h ▸ rfl⟩
  -- The number of steps is that of components.
  have hcomponents := congrArg (fun s => (Path.ofString s).components.length) h
  simpa [Path.components_ofString_up] using hcomponents

/-- As many steps up as a link has directories lead back from the page. -/
theorem resolved_wayBack (output : Path) {texts : List String} (hne : texts ≠ [])
    (h : ∀ s ∈ texts, isEntryName (Utf8.encode s.toList) = true) :
    ∃ directory, (output.join (.ofString
        ("./" ++ String.intercalate "/" texts ++ pageEnding))).parent? = some directory ∧
      (directory.join (.ofString
        (String.join (List.replicate (texts.length - 1) "../")))).resolved = output.resolved := by
  have hpage := Path.components_join_here output (Path.components_link hne h)
  rcases List.eq_nil_or_concat' texts with rfl | ⟨front, s, rfl⟩
  · exact absurd rfl hne
  rw [List.modifyLast_concat, List.map_append, List.map_singleton, ← List.append_assoc] at hpage
  obtain ⟨directory, hdirectory, hcomponents⟩ := Path.exists_parent? hpage
  refine ⟨directory, hdirectory, ?_⟩
  -- The `.` of the link stays in front if the output root is empty.
  have hlead : (if output.bytes = [] then [.here] else output.components).foldl Component.after [] =
      output.resolved := by
    split
    · rename_i hempty
      rw [Path.resolved, Path.components_of_empty hempty]
      rfl
    · rfl
  have hup : (Path.ofString
      (String.join (List.replicate front.length "../"))).isAbsolute = false := by
    rw [← Bool.not_eq_true, Path.isAbsolute_iff, Path.components_ofString_up]
    cases front <;> simp [List.replicate_succ]
  -- The names lead from the output root to the directory, and the steps up take them back.
  have hnames : front.map Component.ofText =
      (front.map fun s => Utf8.encode s.toList).map .name := by
    rw [List.map_map]
    rfl
  have hback := Component.foldl_after_up output.resolved (front.map fun s => Utf8.encode s.toList)
  rw [List.length_map] at hback
  rw [List.length_append, List.length_singleton, Nat.add_sub_cancel, Path.resolved_join _ hup,
    Path.components_ofString_up, Path.resolved, hcomponents, List.foldl_append, hlead, hnames,
    Component.foldl_after_names, hback]

/-! ## Pages -/

/-- The names that are shown of a path are names. -/
theorem isEntryName_of_shown? {cs : List Component}
    (h : ∀ n, .name n ∈ cs → isEntryName n = true) :
    ∀ s ∈ cs.filterMap Component.shown?, isEntryName (Utf8.encode s.toList) = true := by
  intro s hs
  obtain ⟨c, hc, hshown⟩ := List.mem_filterMap.mp hs
  cases c with
  | name n =>
    obtain rfl := Option.some.inj hshown
    exact isEntryName_displayName (h n hc)
  | root | here | up => simp [Component.shown?] at hshown

/-- The way back of a page has a step for each directory of its link, and one for each component
that is seen of its file but not shown. It leads back exactly if there is none of these. -/
theorem DocTree.SeenAs.wayBack {output : Path} {seen : List Component} {node : DocTree}
    {page : FeaturePage} (h : node.SeenAs output seen) (hpage : node.page? = some page)
    (hnames : ∀ n, .name n ∈ seen → isEntryName n = true)
    (hne : seen.filterMap Component.shown? ≠ []) {hidden : Nat}
    (hhidden : seen.length = (seen.filterMap Component.shown?).length + hidden) :
    page.rootFolder = String.join (List.replicate (linkLevels page.link + hidden) "../") ∧
      (page.LeadsBack output ↔ hidden = 0) := by
  have hshown := isEntryName_of_shown? hnames
  have hlink := h.link_eq page hpage
  have hlevels : linkLevels page.link = (seen.filterMap Component.shown?).length - 1 := by
    rw [hlink, Component.shownNames, linkLevels_eq hne hshown]
  have hroot : page.rootFolder =
      String.join (List.replicate (linkLevels page.link + hidden) "../") := by
    have hpos := List.length_pos_iff.mpr hne
    rw [h.rootFolder_eq page hpage, join_replicate_up_inj]
    omega
  refine ⟨hroot, fun hback => ?_, ?_⟩
  · have hfits := hback.rootFolder_eq
    rw [hroot, join_replicate_up_inj] at hfits
    omega
  · rintro rfl
    refine ⟨hroot, ?_⟩
    rw [hroot, Nat.add_zero, hlevels, hlink]
    exact resolved_wayBack output hne hshown

namespace SiteBuilder

variable {p : SiteBuilder} {disk : Disk} {root output : Path} {site : Site}

/-- **The pages of a site lead back exactly if its root has a file name.**

The way back of a page has a step for each directory of its link. If the root has no file name, as
`.`, `..` and the root of an absolute path, it has one more step, which leads out of the output
root. -/
theorem leads_back_iff (hdisk : disk.root.wellFormed = true)
    (h : p.build disk root output = .ok site) : ∀ node ∈ site.root.nodes, ∀ page,
      node.page? = some page →
        page.rootFolder = String.join (List.replicate
          (linkLevels page.link + if root.fileName?.isSome then 0 else 1) "../") ∧
        (page.LeadsBack output ↔ root.fileName?.isSome = true) := by
  obtain ⟨place, e, c, -, hc, hnodes⟩ := seenAs hdisk h
  intro node hnode page hpage
  obtain ⟨x, -, hns, hseen, hlast⟩ := exists_partner hnodes.flip hnode
  have hshown : (x.1.map Component.name).filterMap Component.shown? = x.1.map Path.displayName := by
    rw [List.filterMap_map]
    exact congrFun List.filterMap_eq_map x.1
  have hnames : ∀ n, Component.name n ∈ c :: x.1.map .name → isEntryName n = true := by
    intro n hn
    rcases List.mem_cons.mp hn with rfl | hn
    · exact Path.isEntryName_of_mem_components (List.mem_of_getLast? hc)
    · obtain ⟨m, hm, heq⟩ := List.mem_map.mp hn
      exact Component.name.inj heq ▸ hns m hm
  -- The page itself is seen with a name.
  have hne : (c :: x.1.map Component.name).filterMap Component.shown? ≠ [] := by
    rcases hlast (by simp [hpage]) with ⟨n, rfl⟩ | hbelow
    · simp [Component.shown?]
    · rw [List.filterMap_cons, hshown]
      split <;> simp [hbelow]
  -- Only the last component of the root may be no name.
  have hroot : root.fileName?.isSome = c.shown?.isSome := by
    rw [Bool.eq_iff_iff, Option.isSome_iff_exists]
    simp only [Path.fileName?_eq_some_iff, hc, Option.some.injEq]
    cases c <;> simp [Component.shown?]
  have hhidden : (c :: x.1.map Component.name).length =
      ((c :: x.1.map Component.name).filterMap Component.shown?).length +
        if root.fileName?.isSome then 0 else 1 := by
    rw [hroot, List.filterMap_cons, hshown]
    cases c.shown? <;> simp
  obtain ⟨hway, hback⟩ := hseen.wayBack hpage hnames hne hhidden
  refine ⟨hway, hback.trans ?_⟩
  cases root.fileName?.isSome <;> simp

/-- The page of a feature file in a directory leads back. -/
theorem namesake_leads_back : ∃ site node page,
    unmatching.build namesakes (.ofString "d") (.ofString "o") = .ok site ∧
      node ∈ site.root.nodes ∧ node.page? = some page ∧ page.LeadsBack (.ofString "o") := by
  obtain ⟨site, x, y, z, hbuild, hnodes, hsome, -⟩ := site_of_namesakes
  obtain ⟨page, hpage⟩ := Option.isSome_iff_exists.mp hsome
  have hy : y ∈ site.root.nodes := by simp [hnodes]
  exact ⟨site, y, page, hbuild, hy, hpage,
    (leads_back_iff (by decide) hbuild y hy page hpage).2.mpr (by decide)⟩

end SiteBuilder

/-! ## A root without a file name -/

/-- A working directory with a feature file. -/
def featureHere : Disk where
  root := .directory [(Utf8.encode "a.feature".toList, .file (Utf8.encode "Feature: A".toList))]
  workingDirectory := []

theorem inspect_featureHere :
    featureHere.inspect (.ofString ".") = .ok ([], featureHere.root) := by
  have hlocate : featureHere.locate false (.ofString ".") = .ok [] := by
    change featureHere.locateFrom false Disk.maxLinks [] [hereName] = .ok []
    simp [Disk.locateFrom, featureHere, Entry.descend, Entry.isDirectory, Path.isVoid, hereName,
      upName]
  exact Disk.inspect_eq_ok_iff.mpr ⟨⟨hlocate, rfl⟩, by simp [featureHere]⟩

namespace SiteBuilder

/-- The way back of a page right below the root `.` leads out of the output root. -/
theorem page_here_leads_out : ∃ site node page,
    unmatching.build featureHere (.ofString ".") (.ofString "o") = .ok site ∧
      node ∈ site.root.nodes ∧ node.page? = some page ∧ page.link = "./a.feature.html" ∧
      page.rootFolder = "../" ∧ ¬ page.LeadsBack (.ofString "o") := by
  have hdisk : featureHere.root.wellFormed = true := by decide
  obtain ⟨site, hbuild⟩ : ∃ site,
      unmatching.build featureHere (.ofString ".") (.ofString "o") = .ok site :=
    exists_site hdisk inspect_featureHere
      (by simp [featureHere, Entry.descendants, Entry.descendantsOfAll, Entry.descendantsNamed])
      fun _ => ⟨_, rfl⟩
  -- The feature file has a page.
  have hfinds : featureHere.Finds (.ofString "./a.feature") [Utf8.encode "a.feature".toList]
      (.file (Utf8.encode "Feature: A".toList)) :=
    (Disk.inspect_eq_ok_iff.mp inspect_featureHere).1.entry hdisk List.mem_cons_self
  obtain ⟨d, hd⟩ := exists_readsAs (.ofString ".") (.ofString "o") hfinds (by decide +kernel)
  have hvisits : .ofString "./a.feature" ∈ featureHere.visits (.ofString ".") := by
    rw [Disk.visits_eq inspect_featureHere]
    decide
  obtain ⟨node, hnode, page, hpage⟩ := TreeBuilder.exists_page hdisk (build_eq_ok_iff.mp hbuild).1
    hvisits (Disk.inspect_eq_ok_iff.mpr ⟨hfinds, by simp⟩) rfl hd
  -- It is seen behind the component of the root.
  obtain ⟨place, e, c, hinspect, hc, hnodes⟩ := seenAs hdisk hbuild
  obtain rfl : c = .here := by
    have hlast : (Path.ofString ".").components.getLast? = some .here := by decide
    exact Option.some.inj (hc.symm.trans hlast)
  obtain ⟨-, rfl⟩ := Prod.mk.inj (Except.ok.inj (inspect_featureHere.symm.trans hinspect))
  obtain ⟨x, hx, -, hseen, hlast⟩ := exists_partner hnodes.flip hnode
  obtain hx | hx := List.mem_cons.mp hx
  · simp [hx, hpage] at hlast
  obtain rfl : x = ([Utf8.encode "a.feature".toList], _) := List.mem_singleton.mp hx
  have hlink : page.link = "./a.feature.html" := by
    rw [hseen.link_eq page hpage]
    decide +kernel
  have hroot : page.rootFolder = "../" := by
    rw [hseen.rootFolder_eq page hpage]
    decide +kernel
  refine ⟨site, node, page, hbuild, hnode, hpage, hlink, hroot, fun hback => ?_⟩
  -- The link has no directory.
  have hfits := hback.rootFolder_eq
  rw [hroot, hlink] at hfits
  exact absurd hfits (by decide +kernel)

end SiteBuilder

end FeatureDocs
