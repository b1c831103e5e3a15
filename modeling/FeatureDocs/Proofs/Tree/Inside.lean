import FeatureDocs.Proofs.Tree.Location

/-!
# What is written inside the output root

Where the write path of a node leads is decided by the last component of the root, since only names
come behind it. If that is a `..`, it takes back the last name of the output root, and all nodes are
written from the place above on. Nothing else leaves the output root.

## Main results

* `TreeBuilder.resolved_writePath`: where write paths lead
* `SiteBuilder.written_inside_iff`: the sites that are written inside the output root
-/

namespace FeatureDocs

/-- The ending of pages goes to the last name, or to the first component if there is no name. -/
theorem Component.exists_modifyLast_ofPage (c : Component) (ns : List Name) :
    ∃ (d : Component) (ms : List Name), (c :: ns.map name).modifyLast ofPage = d :: ms.map name ∧
      (d = c ∨ d = c.ofPage) ∧ ms.length = ns.length := by
  rcases List.eq_nil_or_concat' ns with rfl | ⟨front, n, rfl⟩
  · exact ⟨c.ofPage, [], List.modifyLast_concat ofPage c [], Or.inr rfl, rfl⟩
  · refine ⟨c, front ++ [n ++ Utf8.encode pageEnding.toList], ?_, Or.inl rfl, by simp⟩
    rw [List.map_append, List.map_singleton, ← List.cons_append, List.modifyLast_concat,
      List.map_append, List.map_singleton]
    rfl

/-- **Where a write path leads**: from the output root by the first component that is seen, and then
by as many names as come behind it. -/
theorem DocTree.SeenAs.resolved_writePath {output : Path} {c : Component} {ns : List Name}
    {node : DocTree} (h : node.SeenAs output (c :: ns.map .name)) (hc : c ≠ .root) :
    ∃ (d : Component) (ms : List Name), (d = c ∨ d = c.ofPage) ∧ ms.length = ns.length ∧
      node.place.writePath.resolved = Component.after output.resolved d ++ ms.map .name := by
  obtain ⟨q, hwrite, hq⟩ := h.writePath_eq
  obtain ⟨d, ms, hcomponents, hd, hlength⟩ : ∃ (d : Component) (ms : List Name),
      q.components = d :: ms.map .name ∧ (d = c ∨ d = c.ofPage) ∧ ms.length = ns.length := by
    split at hq
    · obtain ⟨d, ms, hmodify, hd, hlength⟩ := Component.exists_modifyLast_ofPage c ns
      exact ⟨d, ms, hq.trans hmodify, hd, hlength⟩
    · exact ⟨c, ns, hq, Or.inl rfl, rfl⟩
  have hroot : d ≠ .root := by
    rcases hd with rfl | rfl
    · exact hc
    · cases c <;> simp [Component.ofPage] at hc ⊢
  refine ⟨d, ms, hd, hlength, ?_⟩
  rw [hwrite, Path.resolved_join _ (Path.isAbsolute_of_head? hcomponents hroot), hcomponents,
    List.foldl_cons, Component.foldl_after_names]

/-- The component of a page leaves a place as the one of its file does. -/
theorem Component.prefix_after_of_ofPage {above : List Component} {c d : Component}
    (hd : d = c ∨ d = c.ofPage) : above <+: after above d ↔ above <+: after above c := by
  rcases hd with rfl | rfl
  · rfl
  · rw [prefix_after_iff, prefix_after_iff]
    cases c <;> simp [ofPage]

namespace SiteBuilder

variable {p : SiteBuilder} {disk : Disk} {root output : Path} {site : Site}

/-- **A site is written inside the output root unless its root ends with `..`** and the output root,
once it is resolved, with a name to take back. -/
theorem written_inside_iff (hdisk : disk.root.wellFormed = true) (hroot : root.isAbsolute = false)
    (h : p.build disk root output = .ok site) :
    (∀ node ∈ site.root.nodes, output.resolved <+: node.place.writePath.resolved) ↔
      (root.components.getLast? = some .up →
        ∀ n, output.resolved.getLast? ≠ some (.name n)) := by
  obtain ⟨place, e, c, hinspect, hc, hnodes⟩ := seenAs hdisk h
  have hne : c ≠ .root := by
    rintro rfl
    exact Path.root_not_mem_components hroot (List.mem_of_getLast? hc)
  rw [hc, Option.some.injEq, ← Component.prefix_after_iff]
  constructor
  · intro hinside
    -- The node of the root is written where its last component leads.
    have hself : ([], e) ∈ e.descendants := by
      cases e <;> simp [Entry.descendants]
    obtain ⟨node, hnode, -, hseen, -⟩ := exists_partner hnodes hself
    obtain ⟨d, ms, hd, hlength, hresolved⟩ := hseen.resolved_writePath hne
    obtain rfl := List.eq_nil_of_length_eq_zero hlength
    have hprefix := hinside node hnode
    rw [hresolved, List.map_nil, List.append_nil] at hprefix
    exact (Component.prefix_after_of_ofPage hd).mp hprefix
  · -- The names behind that component lead further inside.
    intro hinside node hnode
    obtain ⟨x, -, -, hseen, -⟩ := exists_partner hnodes.flip hnode
    obtain ⟨d, ms, hd, -, hresolved⟩ := hseen.resolved_writePath hne
    rw [hresolved]
    exact ((Component.prefix_after_of_ofPage hd).mpr hinside).trans (List.prefix_append _ _)

/-- What is made of a directory is written inside the output root. -/
theorem namesakes_written_inside : ∃ site,
    unmatching.build namesakes (.ofString "d") (.ofString "o") = .ok site ∧
      ∀ node ∈ site.root.nodes,
        [Component.ofText "o"] <+: node.place.writePath.resolved := by
  obtain ⟨site, x, y, z, hbuild, -⟩ := site_of_namesakes
  exact ⟨site, hbuild, (written_inside_iff (by decide) (by decide) hbuild).mpr fun h =>
    absurd h (by decide)⟩

end SiteBuilder

/-! ## A root that goes up -/

/-- A directory with a file. -/
def fileBelow : Disk := sampleDisk [(Utf8.encode "x".toList, .file [])]

/-- The way into the directory and back leads to the top. -/
theorem inspect_fileBelow_up :
    fileBelow.inspect (.ofString "d/..") = .ok ([], fileBelow.root) := by
  have hlocate : fileBelow.locate false (.ofString "d/..") = .ok [] := by
    change fileBelow.locateFrom false Disk.maxLinks [] [Utf8.encode "d".toList, upName] = .ok []
    have hinto : fileBelow.locateFrom false Disk.maxLinks [] [Utf8.encode "d".toList, upName] =
        fileBelow.locateFrom false Disk.maxLinks [Utf8.encode "d".toList] [upName] :=
      Disk.locateFrom_cons_name (d := fileBelow.root) rfl (by decide) rfl (by simp)
    rw [hinto]
    simp [Disk.locateFrom, fileBelow, sampleDisk, Entry.descend, Entry.child, bind, Except.bind,
      Entry.isDirectory]
  exact Disk.inspect_eq_ok_iff.mpr ⟨⟨hlocate, rfl⟩, by simp [fileBelow, sampleDisk]⟩

namespace SiteBuilder

/-- The node of a root that goes up is written above the output root. -/
theorem written_above_output : ∃ site,
    unmatching.build fileBelow (.ofString "d/..") (.ofString "o") = .ok site ∧
      site.root ∈ site.root.nodes ∧ site.root.place.writePath = .ofString "o/.." ∧
      ¬ (Path.ofString "o").resolved <+: site.root.place.writePath.resolved := by
  have hdisk : fileBelow.root.wellFormed = true := by decide
  obtain ⟨site, hbuild⟩ : ∃ site,
      unmatching.build fileBelow (.ofString "d/..") (.ofString "o") = .ok site :=
    exists_site hdisk inspect_fileBelow_up
      (by simp [fileBelow, sampleDisk, Entry.descendants, Entry.descendantsOfAll,
        Entry.descendantsNamed])
      fun _ => ⟨_, rfl⟩
  have htree := (build_eq_ok_iff.mp hbuild).1
  rw [TreeBuilder.build_of_inspect inspect_fileBelow_up] at htree
  obtain ⟨hfile, -⟩ | ⟨entries, children, -, -, hroot⟩ := TreeBuilder.buildEntry_cases htree
  · exact absurd hfile (by decide)
  have hwrite : site.root.place.writePath = .ofString "o/.." := by
    rw [hroot]
    change ((unmatching.treeBuilder (.ofString "d/..") (.ofString "o")).place
      (.ofString "d/..")).writePath = _
    decide
  refine ⟨site, hbuild, ?_, hwrite, ?_⟩
  · rw [hroot]
    exact List.mem_cons_self
  · rw [hwrite]
    decide

end SiteBuilder

end FeatureDocs
