import FeatureDocs.Proofs.Disk.Reordered
import FeatureDocs.Proofs.TagIndex
import FeatureDocs.Proofs.Tree.Edited
import Mathlib.Data.List.Perm.Basic

/-!
# The listing order of a disk

A build follows the listing order of the disk, so two disks that differ in that only give trees that
differ in the order of children only, and a build fails on both or on neither; with which error may
depend on the order. The blocks of the trees are the same but for their order, on which no index
depends.

## Main definitions

* `DocTree.Reordered`: trees with other orders of children

## Main results

* `TreeBuilder.build_reordered`: what is built on one disk is built on the other
* `SiteBuilder.listing_order_immaterial`: the sites of both disks
-/

namespace FeatureDocs

/-- Two trees that differ only in the order of the children of directories. -/
inductive DocTree.Reordered : DocTree → DocTree → Prop
  | refl (tree : DocTree) : Reordered tree tree
  | trans {t₁ t₂ t₃ : DocTree} : Reordered t₁ t₂ → Reordered t₂ t₃ → Reordered t₁ t₃
  | children (place : NodePlace) (tocName : String) {trees trees' : List DocTree} :
      trees.Perm trees' →
        Reordered (.directory place tocName trees) (.directory place tocName trees')
  | inside (place : NodePlace) (tocName : String) (before after : List DocTree)
      {tree tree' : DocTree} : Reordered tree tree' →
      Reordered (.directory place tocName (before ++ tree :: after))
        (.directory place tocName (before ++ tree' :: after))

namespace DocTree

/-! ## Blocks -/

theorem scenarios_directory (place : NodePlace) (tocName : String) (trees : List DocTree) :
    (directory place tocName trees).scenarios = scenariosOfAll trees := rfl

theorem scenariosOfAll_eq_flatMap (trees : List DocTree) :
    scenariosOfAll trees = trees.flatMap scenarios := by
  induction trees with
  | nil => rfl
  | cons tree trees ih =>
    rw [List.flatMap_cons, ← ih, scenarios_eq_scenariosOfAll, ← scenariosOfAll_append]
    rfl

/-- The blocks of both trees are the same but for their order. -/
theorem Reordered.scenarios_perm {tree tree' : DocTree} (h : tree.Reordered tree') :
    tree.scenarios.Perm tree'.scenarios := by
  induction h with
  | refl tree => exact .refl _
  | trans _ _ ih ih' => exact ih.trans ih'
  | children place tocName hperm =>
    rw [scenarios_directory, scenarios_directory, scenariosOfAll_eq_flatMap,
      scenariosOfAll_eq_flatMap]
    exact hperm.flatMap_right _
  | inside place tocName before after _ ih =>
    simp only [scenarios_directory, scenariosOfAll_eq_flatMap, List.flatMap_append,
      List.flatMap_cons]
    exact (ih.append_right _).append_left _

end DocTree

namespace TreeBuilder

variable {b : TreeBuilder} {disk disk' : Disk}

/-! ## Builds -/

/-- The nodes of the entries before an entry, its own, and those after it. -/
theorem buildEntries_middle_eq_ok_iff {p : Path} {before after : List (Name × Entry)} {n : Name}
    {e : Entry} {trees : List DocTree} :
    b.buildEntries disk p (before ++ (n, e) :: after) = .ok trees ↔
      ∃ first tree last, b.buildEntries disk p before = .ok first ∧
        b.buildEntry disk (p.entry n) e = .ok tree ∧ b.buildEntries disk p after = .ok last ∧
        trees = first ++ tree :: last := by
  rw [buildEntries_append, buildEntries, buildNamed]
  cases b.buildEntries disk p before with
  | error cause => simp [bind, Except.bind]
  | ok first =>
    cases b.buildEntry disk (p.entry n) e with
    | error cause => simp [bind, Except.bind]
    | ok tree =>
      cases b.buildEntries disk p after with
      | error cause => simp [bind, Except.bind, Except.map]
      | ok last => simp [bind, Except.bind, Except.map, pure, Except.pure, eq_comm]

/-- **What is built of an entry is built of it in any listing order**, up to the order of
children. -/
theorem buildEntry_reordered {e e' : Entry} (h : e.Reordered e') {p : Path} {tree : DocTree}
    (htree : b.buildEntry disk p e = .ok tree) :
    ∃ tree', b.buildEntry disk p e' = .ok tree' ∧ tree.Reordered tree' := by
  induction h generalizing p tree with
  | refl e => exact ⟨tree, htree, .refl tree⟩
  | trans _ _ ih ih' =>
    obtain ⟨mid, hmid, hfirst⟩ := ih htree
    obtain ⟨last, hlast, hsecond⟩ := ih' hmid
    exact ⟨last, hlast, hfirst.trans hsecond⟩
  | listing hperm =>
    obtain ⟨trees, htrees, rfl⟩ := buildEntry_directory_eq_ok_iff.mp htree
    -- Each entry keeps its node, so the nodes are permuted as the entries are.
    obtain ⟨trees', hnodes, hperm'⟩ :=
      List.perm_comp_forall₂ hperm.symm (buildEntries_eq_ok_iff.mp htrees)
    exact ⟨_, buildEntry_directory_eq_ok_iff.mpr ⟨trees', buildEntries_eq_ok_iff.mpr hnodes, rfl⟩,
      .children _ _ hperm'.symm⟩
  | inside before after n _ ih =>
    obtain ⟨trees, htrees, rfl⟩ := buildEntry_directory_eq_ok_iff.mp htree
    obtain ⟨first, inner, last, hfirst, hinner, hlast, rfl⟩ :=
      buildEntries_middle_eq_ok_iff.mp htrees
    obtain ⟨inner', hinner', hsame⟩ := ih hinner
    exact ⟨_, buildEntry_directory_eq_ok_iff.mpr ⟨_, buildEntries_middle_eq_ok_iff.mpr
      ⟨first, inner', last, hfirst, hinner', hlast, rfl⟩, rfl⟩, .inside _ _ first last hsame⟩

/-- **What is built on one disk is built on the other**, up to the order of children. -/
theorem build_reordered (h : disk.Reordered disk') (hdisk : disk.root.wellFormed = true) {p : Path}
    {tree : DocTree} (htree : b.build disk p = .ok tree) :
    ∃ tree', b.build disk' p = .ok tree' ∧ tree.Reordered tree' := by
  rcases h.inspect hdisk p with ⟨cause, hp, -⟩ | ⟨place, e, e', hp, hp', hee⟩
  · simp [build_of_inspect_error hp] at htree
  · rw [build_of_inspect hp] at htree
    obtain ⟨tree', htree', hsame⟩ := buildEntry_reordered hee htree
    -- The files of both disks have the same texts.
    have hdisks : b.buildEntry disk p e' = b.buildEntry disk' p e' :=
      buildEntry_congr fun x _ => congrArg Except.toOption (h.readText hdisk _)
    exact ⟨tree', by rw [build_of_inspect hp', ← hdisks, htree'], hsame⟩

end TreeBuilder

theorem Disk.Reordered.symm {disk disk' : Disk} (h : disk.Reordered disk') :
    disk'.Reordered disk :=
  ⟨h.root.symm, h.workingDirectory.symm⟩

namespace SiteBuilder

/-- **The listing order of a disk does not matter to a site.**

On two disks that differ in their listing orders only, a build fails on both or on neither. If it
does not, the trees are equal up to the order of children, the tags of both sites are the same, and
each tag has the same members up to their order. -/
theorem listing_order_immaterial {p : SiteBuilder} {disk disk' : Disk} {root output : Path}
    (hdisk : disk.root.wellFormed = true) (h : disk.Reordered disk') :
    ((∃ site, p.build disk root output = .ok site) ↔
        ∃ site', p.build disk' root output = .ok site') ∧
      ∀ site site', p.build disk root output = .ok site → p.build disk' root output = .ok site' →
        site.root.Reordered site'.root ∧ site.index.tags = site'.index.tags ∧
          ∀ tag, (site.index.withTag tag).Perm (site'.index.withTag tag) := by
  have hbuild : ∀ {d d' : Disk}, d.Reordered d' → d.root.wellFormed = true → ∀ site,
      p.build d root output = .ok site →
        ∃ site', p.build d' root output = .ok site' ∧ site.root.Reordered site'.root := by
    intro d d' hd hwf site hsite
    obtain ⟨tree', htree', hsame⟩ := TreeBuilder.build_reordered hd hwf (build_eq_ok_iff.mp hsite).1
    exact ⟨.ofTree tree', build_eq_ok_iff.mpr ⟨htree', rfl⟩, hsame⟩
  constructor
  · constructor
    · rintro ⟨site, hsite⟩
      obtain ⟨site', hsite', -⟩ := hbuild h hdisk site hsite
      exact ⟨site', hsite'⟩
    · rintro ⟨site', hsite'⟩
      obtain ⟨site, hsite, -⟩ := hbuild h.symm (h.wellFormed hdisk) site' hsite'
      exact ⟨site, hsite⟩
  · intro site site' hsite hsite'
    obtain ⟨site'', hsite'', hsame⟩ := hbuild h hdisk site hsite
    obtain rfl := Except.ok.inj (hsite'.symm.trans hsite'')
    -- The index is that of the blocks of the tree.
    have hindex := (build_eq_ok_iff.mp hsite).2
    have hindex' := (build_eq_ok_iff.mp hsite').2
    refine ⟨hsame, ?_, fun tag => ?_⟩
    · rw [hindex, hindex']
      exact TagIndex.tags_perm hsame.scenarios_perm
    · rw [hindex, hindex']
      exact TagIndex.withTag_perm hsame.scenarios_perm tag

end SiteBuilder

/-- A directory that lists a feature file before another file, and this directory before a third
file. -/
def listedDisk : Disk :=
  sampleDisk [(Utf8.encode "sub".toList, .directory
      [(Utf8.encode "a.feature".toList, .file (Utf8.encode "Feature: A".toList)),
        (Utf8.encode "b".toList, .file [])]),
    (Utf8.encode "c".toList, .file [])]

/-- The same directories, both listed the other way round. -/
def relistedDisk : Disk :=
  sampleDisk [(Utf8.encode "c".toList, .file []),
    (Utf8.encode "sub".toList, .directory [(Utf8.encode "b".toList, .file []),
      (Utf8.encode "a.feature".toList, .file (Utf8.encode "Feature: A".toList))])]

theorem reordered_listedDisk : listedDisk.Reordered relistedDisk where
  root := by
    refine .inside [] [] _ (.listing_of_forall₂ (List.Perm.swap _ _ []) ?_)
    exact .cons ⟨rfl, .refl _⟩ (.cons ⟨rfl, .listing (List.Perm.swap _ _ [])⟩ .nil)
  workingDirectory := rfl

/-- The sites of these directories. -/
theorem SiteBuilder.sites_of_listedDisk : listedDisk.root.wellFormed = true ∧
    listedDisk.Reordered relistedDisk ∧ ∃ site site',
      unmatching.build listedDisk (.ofString "d") (.ofString "o") = .ok site ∧
        unmatching.build relistedDisk (.ofString "d") (.ofString "o") = .ok site' ∧
        site.root.Reordered site'.root ∧ site.index.tags = site'.index.tags ∧
        ∀ tag, (site.index.withTag tag).Perm (site'.index.withTag tag) := by
  have hdisk : listedDisk.root.wellFormed = true := by decide
  obtain ⟨site, hsite⟩ : ∃ site,
      unmatching.build listedDisk (.ofString "d") (.ofString "o") = .ok site :=
    exists_site hdisk (inspect_sampleDisk _)
      (by simp [Entry.descendants, Entry.descendantsOfAll, Entry.descendantsNamed])
      fun _ => ⟨_, rfl⟩
  obtain ⟨site', hsite'⟩ :=
    (listing_order_immaterial hdisk reordered_listedDisk).1.mp ⟨site, hsite⟩
  exact ⟨hdisk, reordered_listedDisk, site, site', hsite, hsite',
    (listing_order_immaterial hdisk reordered_listedDisk).2 site site' hsite hsite'⟩

end FeatureDocs
