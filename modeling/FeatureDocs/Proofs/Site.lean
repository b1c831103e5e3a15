import FeatureDocs.Proofs.TagIndex
import FeatureDocs.Proofs.Text.Utf8
import FeatureDocs.Proofs.Tree.Pages
import FeatureDocs.Site

/-!
# The tags of a site

The index of a site lists the blocks of all pages with the tags that count for them, and these can
be read off what the grammar makes of the feature files: the tags of the block, the synthetic tag,
and the tags of the feature, in this order and with duplicates. Where the grammar is that of a
reader of features, the tags of a block are those of the scenario and its rule. Nothing of the
feature reaches the blocks of the tree itself.

## Main definitions

* `indexedBlocks`: the blocks of a page as an index lists them

## Main results

* `SiteBuilder.tags_of_build`: the tags of a site, from the feature files
-/

namespace FeatureDocs

/-- The blocks of a page as an index lists them, by the tags in the document that the grammar made
of the file. -/
def indexedBlocks (addTags : Bool) (raw : Document) (children : List Scenario) : List Scenario :=
  List.zipWith
    (fun own c =>
      { c with tags := own.tags.map bareTag ++ c.syntheticTags addTags ++ raw.tags.map bareTag })
    raw.children children

/-- An index lists the blocks of a page with all tags that count for them. -/
theorem indexedBlocks_eq_map {addTags : Bool} {raw : Document} {children : List Scenario}
    (hown : List.Forall₂ (fun own c => c.tags = own.tags.map bareTag ++ c.syntheticTags addTags)
      raw.children children)
    (hfeature : ∀ c ∈ children, c.featureTags = raw.tags.map bareTag) :
    indexedBlocks addTags raw children = children.map fun c => { c with tags := c.allTags } := by
  unfold indexedBlocks
  generalize raw.children = blocks at hown
  induction hown with
  | nil => rfl
  | @cons own c blocks children hc _ ih =>
    have hrest := ih fun d hd => hfeature d (List.mem_cons_of_mem _ hd)
    rw [List.zipWith_cons_cons, List.map_cons, hrest, Scenario.allTags, hc,
      hfeature c List.mem_cons_self]

/-- The grammar of a reader of features makes the document of the feature that is read. -/
theorem Disk.feature_of_parsed? {disk : Disk} {parse : String → Option Gherkin.Feature} {p : Path}
    {raw : Document} (h : disk.parsed? (.ofFeatures parse) p = some raw) :
    ∃ text f, disk.readText p = .ok text ∧ parse (withNewline text) = some f ∧
      raw = .ofFeature f := by
  rw [parsed?] at h
  cases htext : disk.readText p with
  | error cause => simp [htext, Except.toOption] at h
  | ok text =>
    rw [htext] at h
    obtain ⟨f, hf, rfl⟩ := Option.map_eq_some_iff.mp h
    exact ⟨text, f, rfl, hf, rfl⟩

/-- **The tags of a site come from the feature files.**

Each page belongs to a file of which the grammar makes a document, and its blocks have the tags of
the blocks of that document without `@`, followed by the synthetic tag if one is wanted; the grammar
of a reader of features gives a block the tags of its scenario and then those of its rule. The index
lists the same blocks, page by page, with the tags of the feature without `@` behind those. The
members of a tag are the blocks of that list, each as often as it has the tag; and the tags of the
index are those that occur, in the order of their bytes, each with the number of its occurrences. -/
theorem SiteBuilder.tags_of_build {p : SiteBuilder} {disk : Disk} {root output : Path} {site : Site}
    (h : p.build disk root output = .ok site) :
    (∀ x ∈ site.root.pages, ∃ raw, disk.parsed? p.grammar x.1 = some raw ∧
        List.Forall₂ (fun own c => c.tags = own.tags.map bareTag ++ c.syntheticTags p.addTags)
          raw.children x.2.document.children ∧
        ∀ parse, p.grammar = .ofFeatures parse →
          ∃ text f, disk.readText x.1 = .ok text ∧ parse (withNewline text) = some f ∧
            raw.children.map Scenario.tags = f.blockTags ∧ raw.tags = f.tags) ∧
      (site.index.scenarios = site.root.pages.flatMap fun x =>
        (disk.parsed? p.grammar x.1).toList.flatMap fun raw =>
          indexedBlocks p.addTags raw x.2.document.children) ∧
      (∀ tag, site.index.withTag tag =
        site.index.scenarios.flatMap fun s => List.replicate (s.tags.count tag) s) ∧
      (site.index.tags.map fun t => Utf8.encode t.name.toList).Pairwise (· < ·) ∧
      ∀ tag count, ⟨tag, count⟩ ∈ site.index.tags ↔
        count = (site.index.scenarios.flatMap Scenario.tags).count tag ∧ 0 < count := by
  unfold build at h
  cases hb : (p.treeBuilder root output).build disk root with
  | error e => simp [hb, Except.map] at h
  | ok tree =>
    rw [hb] at h
    obtain rfl := Except.ok.inj h
    have hpages := fun x hx => TreeBuilder.blocks_of_mem_pages hb (x := x) hx
    refine ⟨fun x hx => ?_, ?_, fun tag => TagIndex.withTag_ofScenarios tree.scenarios tag, ?_,
      fun tag count => TagIndex.mem_tags_iff⟩
    · obtain ⟨raw, hraw, hown, -⟩ := hpages x hx
      refine ⟨raw, hraw, hown, fun parse hparse => ?_⟩
      change disk.parsed? p.grammar x.1 = some raw at hraw
      rw [hparse] at hraw
      obtain ⟨text, f, htext, hf, rfl⟩ := Disk.feature_of_parsed? hraw
      exact ⟨text, f, htext, hf, Document.tags_ofFeature f, rfl⟩
    · -- Page by page, the tags that count are the raw ones.
      change tree.scenarios.map _ = tree.pages.flatMap _
      rw [DocTree.scenarios_eq_flatMap_pages, List.map_flatMap]
      refine List.flatMap_congr fun x hx => ?_
      obtain ⟨raw, hraw, hown, hfeature⟩ := hpages x hx
      change disk.parsed? p.grammar x.1 = some raw at hraw
      rw [hraw, Option.toList_some, List.flatMap_singleton]
      exact (indexedBlocks_eq_map hown hfeature).symm
    · -- The index orders tags by their characters, which is the order of their bytes.
      have hascending := TagIndex.ascending_tags tree.scenarios
      rw [List.pairwise_map] at hascending ⊢
      exact hascending.imp fun hlt => Utf8.encode_lt_encode (String.lt_iff.mp hlt)

/-- A scenario with tags and steps. -/
def taggedScenario (tags : List String) (steps : List String) : Gherkin.Scenario where
  keyword := "Scenario"
  name := "B"
  description := none
  tags
  steps := steps.map fun text => ⟨"Given ", text, none, none⟩
  examples := []

/-- A feature with a scenario of its own and one in a rule, all with tags. -/
def taggedFeature : Gherkin.Feature where
  keyword := "Feature"
  name := "A"
  description := none
  tags := ["@f"]
  background := none
  scenarios := [taggedScenario ["@s", "@@t"] []]
  rules := [⟨"Rule", "R", ["@r"], none, [taggedScenario ["@s"] ["x"]]⟩]

/-- The site of a feature file with tags under a matcher that knows no step. -/
theorem SiteBuilder.tags_of_feature_file :
    let name : Name := Utf8.encode "a.feature".toList
    let disk : Disk := ⟨.directory [(name, .file [])], []⟩
    let builder : SiteBuilder :=
      ⟨.ofFeatures fun _ => some taggedFeature, id, fun _ => .ok .unmatched, true⟩
    ∃ site, builder.build disk ⟨name⟩ ⟨[]⟩ = .ok site ∧
      (site.root.pages.map fun x => (x.1, x.2.document.children.map Scenario.tags)) =
        [(⟨name⟩, [["s", "@t", "Implemented"], ["s", "r", "Not Implemented"]])] ∧
      site.index.scenarios.map Scenario.tags =
        [["s", "@t", "Implemented", "f"], ["s", "r", "Not Implemented", "f"]] ∧
      site.index.withTag "s" = site.index.scenarios ∧ ⟨"f", 2⟩ ∈ site.index.tags := by
  intro name disk builder
  have hlocate : disk.locate false ⟨name⟩ = .ok [name] :=
    Disk.locateFrom_name (d := disk.root) rfl (by decide) rfl
  have hfinds : disk.Finds ⟨name⟩ [name] (.file []) := ⟨hlocate, rfl⟩
  have htext : disk.readText ⟨name⟩ = .ok "" := by
    have hdecode : Utf8.decode? [] = some [] := by decide +kernel
    rw [hfinds.readText, Disk.textOf, hdecode]
  let b := builder.treeBuilder ⟨name⟩ ⟨[]⟩
  let raw : Document := .ofFeature taggedFeature
  let finished := (raw.bareTags.escapeArguments.resolve builder.matcher true).subject.inheritFeature
  have hdocument : b.document? ⟨name⟩ (.ok "") = some raw := by
    rw [TreeBuilder.document?, if_pos (by decide +kernel)]
    rfl
  have htree : b.build disk ⟨name⟩ = .ok (b.featureNode ⟨name⟩ finished) := by
    rw [TreeBuilder.build_of_inspect (Disk.inspect_eq_ok_iff.mpr ⟨hfinds, by simp⟩)]
    change b.buildFile ⟨name⟩ (disk.readText ⟨name⟩) = _
    rw [htext, TreeBuilder.buildFile, hdocument]
    rfl
  have hbuild : builder.build disk ⟨name⟩ ⟨[]⟩ = .ok (.ofTree (b.featureNode ⟨name⟩ finished)) :=
    congrArg (Except.map Site.ofTree) htree
  obtain ⟨-, hindex, hwith, -, hcounts⟩ := tags_of_build hbuild
  -- The only page is that of the file, and the grammar makes one document of it.
  have hparsed : disk.parsed? builder.grammar ⟨name⟩ = some raw := by
    rw [Disk.parsed?, htext]
    rfl
  change _ = (disk.parsed? builder.grammar ⟨name⟩).toList.flatMap
    (fun raw => indexedBlocks true raw finished.children) ++ [] at hindex
  rw [hparsed] at hindex
  refine ⟨_, hbuild, rfl, ?_, (hwith "s").trans ?_, (hcounts "f" 2).mpr ?_⟩
  · rw [hindex]
    decide
  · decide
  · decide

end FeatureDocs
