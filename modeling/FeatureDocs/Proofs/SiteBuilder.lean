import FeatureDocs.Proofs.Tree.Build
import FeatureDocs.Site

/-!
# Sites and their trees

A run makes a site exactly if it builds a tree, and fails with the errors of the tree. The tree is
seen from the path above its root, so every write path starts with the name of the root.

## Main definitions

* `sampleDisk`, `SiteBuilder.unmatching`: a directory with some entries, and a builder that decides
  on every step

## Main results

* `SiteBuilder.build_eq_ok_iff`, `SiteBuilder.build_eq_error_iff`: sites, by their trees
* `SiteBuilder.exists_site`: a run that cannot fail
-/

namespace FeatureDocs

namespace SiteBuilder

variable {p : SiteBuilder} {disk : Disk} {root output : Path}

theorem build_eq_ok_iff {site : Site} : p.build disk root output = .ok site ↔
    (p.treeBuilder root output).build disk root = .ok site.root ∧ site = .ofTree site.root := by
  rw [build]
  cases (p.treeBuilder root output).build disk root with
  | error e => simp [Except.map]
  | ok tree =>
    simp only [Except.map, Except.ok.injEq]
    constructor
    · rintro rfl
      exact ⟨rfl, rfl⟩
    · rintro ⟨rfl, hsite⟩
      exact hsite.symm

theorem build_eq_error_iff {e : BuildError} : p.build disk root output = .error e ↔
    (p.treeBuilder root output).build disk root = .error e := by
  rw [build]
  cases (p.treeBuilder root output).build disk root <;> simp [Except.map]

/-- The base directory of a site is the path above its root. -/
theorem base_of_treeBuilder (p : SiteBuilder) (root output : Path) :
    (p.treeBuilder root output).baseDirectory.components <+: root.components := by
  change (root.parent?.getD ⟨[]⟩).components <+: root.components
  cases hparent : root.parent? with
  | none => exact List.nil_prefix
  | some above =>
    obtain ⟨c, hc⟩ := Path.components_parent? hparent
    exact ⟨[c], hc.symm⟩

/-- There is a site where no entry is denied, if the matcher decides on every line. -/
theorem exists_site {place : List Name} {e : Entry} (hdisk : disk.root.wellFormed = true)
    (hroot : disk.inspect root = .ok (place, e))
    (hdenied : ∀ x ∈ e.descendants, ∀ operation, x.2 ≠ .denied operation)
    (hmatch : ∀ line, ∃ found, p.matcher line = .ok found) :
    ∃ site, p.build disk root output = .ok site := by
  obtain ⟨tree, htree⟩ := TreeBuilder.exists_tree_of_total
    (b := p.treeBuilder root output) hdisk hroot hdenied hmatch
  exact ⟨.ofTree tree, build_eq_ok_iff.mpr ⟨htree, rfl⟩⟩

/-- A builder whose matcher knows no step. -/
def unmatching : SiteBuilder :=
  ⟨.ofFeatures Gherkin.Feature.parse?, id, fun _ => .ok .unmatched, true⟩

/-- A file with the text of a feature reads as a document, if it has the name of one. -/
theorem exists_readsAs (root output : Path) {q : Path} {place : List Name}
    (h : disk.Finds q place (.file (Utf8.encode "Feature: A".toList)))
    (hname : isFeatureName (shownName q) = true) :
    ∃ d, (unmatching.treeBuilder root output).ReadsAs disk q d :=
  TreeBuilder.exists_readsAs rfl h hname

end SiteBuilder

/-- A disk with some entries in its only directory `d`. -/
def sampleDisk (entries : List (Name × Entry)) : Disk where
  root := .directory [(Utf8.encode "d".toList, .directory entries)]
  workingDirectory := []

theorem inspect_sampleDisk (entries : List (Name × Entry)) :
    (sampleDisk entries).inspect (.ofString "d") =
      .ok ([Utf8.encode "d".toList], .directory entries) := by
  have hlocate : (sampleDisk entries).locate false (.ofString "d") =
      .ok [Utf8.encode "d".toList] :=
    Disk.locateFrom_name (d := (sampleDisk entries).root) rfl (by decide) rfl
  exact Disk.inspect_eq_ok_iff.mpr ⟨⟨hlocate, rfl⟩, by simp⟩

end FeatureDocs
