import FeatureDocs.Proofs.Document.StatusTags
import FeatureDocs.Proofs.SiteBuilder
import FeatureDocs.Proofs.TagIndex

/-!
# Synthetic tags only inform

Whether synthetic tags are wanted decides on nothing but those tags. Of two runs that differ in
this, both fail with the same error, or both end well; and then the trees are the same once the
synthetic tags are dropped, and the buckets are of the same sizes but for those of the synthetic
tags, which have one more member for each block that is implemented, or is not.

## Main definitions

* `DocTree.mapBlocks`: a tree with each block of its documents replaced
* `Site.GainsStatusTags`: two sites that differ in synthetic tags

## Main results

* `TreeBuilder.build_addTags`: both trees of a path
* `status_tags_only_inform`: both runs
-/

namespace FeatureDocs

/-! ## The blocks of a tree -/

/-- The document with each block replaced. -/
def Document.mapBlocks (f : Scenario → Scenario) (d : Document) : Document :=
  { d with children := d.children.map f }

namespace DocTree

mutual

/-- The tree with each block of its documents replaced. -/
def mapBlocks (f : Scenario → Scenario) : DocTree → DocTree
  | directory place tocName children => directory place tocName (mapBlocksOfAll f children)
  | feature place page => feature place { page with document := page.document.mapBlocks f }
  | file place => file place

/-- Trees with each block of their documents replaced. -/
def mapBlocksOfAll (f : Scenario → Scenario) : List DocTree → List DocTree
  | [] => []
  | t :: ts => mapBlocks f t :: mapBlocksOfAll f ts

end

mutual

theorem scenarios_mapBlocks (f : Scenario → Scenario) (tree : DocTree) :
    (tree.mapBlocks f).scenarios = tree.scenarios.map f := by
  cases tree with
  | directory place tocName children => exact scenariosOfAll_mapBlocksOfAll f children
  | feature place page =>
    simp [scenarios, nodes, ownScenarios, page?, mapBlocks, Document.mapBlocks]
  | file place => rfl

theorem scenariosOfAll_mapBlocksOfAll (f : Scenario → Scenario) (trees : List DocTree) :
    (nodesOfAll (mapBlocksOfAll f trees)).flatMap ownScenarios =
      ((nodesOfAll trees).flatMap ownScenarios).map f := by
  cases trees with
  | nil => rfl
  | cons tree trees =>
    rw [mapBlocksOfAll, nodesOfAll, nodesOfAll, List.flatMap_append, List.flatMap_append,
      List.map_append, scenariosOfAll_mapBlocksOfAll f trees]
    exact congrArg (· ++ _) (scenarios_mapBlocks f tree)

end

mutual

/-- What undoes the change of each block undoes that of the tree. -/
theorem mapBlocks_leftInverse {f g : Scenario → Scenario} (h : ∀ s, g (f s) = s) (tree : DocTree) :
    (tree.mapBlocks f).mapBlocks g = tree := by
  cases tree with
  | directory place tocName children =>
    rw [mapBlocks, mapBlocks, mapBlocksOfAll_leftInverse h]
  | feature place page =>
    simp [mapBlocks, Document.mapBlocks, h, Function.comp_def]
  | file place => rfl

theorem mapBlocksOfAll_leftInverse {f g : Scenario → Scenario} (h : ∀ s, g (f s) = s)
    (trees : List DocTree) : mapBlocksOfAll g (mapBlocksOfAll f trees) = trees := by
  cases trees with
  | nil => rfl
  | cons tree trees =>
    rw [mapBlocksOfAll, mapBlocksOfAll, mapBlocks_leftInverse h, mapBlocksOfAll_leftInverse h]

end

end DocTree

/-! ## Both runs -/

namespace Document

/-- Both passes fail with the same error; or both end well, and one of them has tagged each block in
the end. -/
theorem resolve_addTags (matcher : Matcher) (d : Document) :
    (∃ e, ∀ addTags, (d.resolve matcher addTags).result = .error e) ∨
      ∃ flag d', d.resolve matcher false = ⟨.ok flag, d'⟩ ∧
        d.resolve matcher true = ⟨.ok flag, d'.mapBlocks Scenario.addStatusTags⟩ := by
  by_cases hfails : ∃ s ∈ d.steps, ∃ e, matcher s.line = .error e
  · obtain ⟨before, child, after, done, step, rest, e, hchildren, hsteps, he, hbefore, hdone⟩ :=
      exists_first_failure hfails
    exact Or.inl ⟨e, fun addTags => by
      rw [resolve_of_error hchildren hsteps he hbefore hdone]⟩
  · have hanswers : ∀ c ∈ d.children, matcher.Answers c.steps matcher.answer := fun c hc =>
      Matcher.answers_of_not_error fun s hs he =>
        hfails ⟨s, List.mem_flatMap.mpr ⟨c, hc, hs⟩, he⟩
    refine Or.inr ⟨_, _, resolve_of_answers hanswers false, ?_⟩
    rw [resolve_of_answers hanswers true, mapBlocks, matchedBy, matchedBy, List.map_map]
    rfl

end Document

namespace TreeBuilder

variable (b : TreeBuilder) (disk : Disk)

theorem annotate_addTags (d : Document) :
    { b with addTags := true }.annotate d =
      ({ b with addTags := false }.annotate d).map
        (Document.mapBlocks Scenario.addStatusTags) := by
  unfold annotate
  rcases d.bareTags.escapeArguments.resolve_addTags b.matcher with
    ⟨e, he⟩ | ⟨flag, d', hplain, htagged⟩
  · simp only [he]
    rfl
  · simp only [hplain, htagged, Except.map]
    -- What a block takes over from its feature does not touch its own tags.
    simp [Document.inheritFeature, Document.mapBlocks, Scenario.addStatusTags, Function.comp_def]

theorem buildFile_addTags (p : Path) (text : Except OsError String) :
    { b with addTags := true }.buildFile p text =
      ({ b with addTags := false }.buildFile p text).map
        (DocTree.mapBlocks Scenario.addStatusTags) := by
  have hdocument : { b with addTags := true }.document? p text =
      { b with addTags := false }.document? p text := rfl
  rw [buildFile, buildFile, hdocument]
  cases { b with addTags := false }.document? p text with
  | none => rfl
  | some d =>
    dsimp only
    rw [annotate_addTags]
    cases { b with addTags := false }.annotate d <;> rfl

theorem buildEntries_addTags {p : Path} {entries : List (Name × Entry)}
    (h : ∀ n e, (n, e) ∈ entries →
      { b with addTags := true }.buildEntry disk (p.entry n) e =
        ({ b with addTags := false }.buildEntry disk (p.entry n) e).map
          (DocTree.mapBlocks Scenario.addStatusTags)) :
    { b with addTags := true }.buildEntries disk p entries =
      ({ b with addTags := false }.buildEntries disk p entries).map
        (DocTree.mapBlocksOfAll Scenario.addStatusTags) := by
  induction entries with
  | nil => rfl
  | cons entry entries ih =>
    obtain ⟨n, e⟩ := entry
    rw [buildEntries, buildEntries, buildNamed, buildNamed, h n e List.mem_cons_self,
      ih fun m d hd => h m d (List.mem_cons_of_mem _ hd)]
    cases { b with addTags := false }.buildEntry disk (p.entry n) e with
    | error cause => rfl
    | ok tree => cases { b with addTags := false }.buildEntries disk p entries <;> rfl

theorem buildEntry_addTags (p : Path) (e : Entry) :
    { b with addTags := true }.buildEntry disk p e =
      ({ b with addTags := false }.buildEntry disk p e).map
        (DocTree.mapBlocks Scenario.addStatusTags) := by
  induction e using Entry.induction generalizing p with
  | file content | link target => exact buildFile_addTags b p _
  | denied operation =>
    cases operation with
    | read => exact buildFile_addTags b p _
    | inspect | list => rfl
  | directory entries ih =>
    rw [buildEntry, buildEntry, buildEntries_addTags b disk fun n e hmem => ih n e hmem _]
    cases { b with addTags := false }.buildEntries disk p entries <;> rfl

/-- **Both trees of a path**: with synthetic tags the blocks are tagged, and nothing else
differs. -/
theorem build_addTags (p : Path) :
    { b with addTags := true }.build disk p =
      ({ b with addTags := false }.build disk p).map
        (DocTree.mapBlocks Scenario.addStatusTags) := by
  rw [build, build]
  cases disk.inspect p with
  | error cause => rfl
  | ok found => exact buildEntry_addTags b disk p found.2

end TreeBuilder

/-! ## Counting synthetic tags -/

/-- The bucket of a tag gains a member for each block of which the tag tells. -/
theorem TagIndex.length_positions_addStatusTags (scenarios : List Scenario) (tag : String) :
    ((ofScenarios (scenarios.map Scenario.addStatusTags)).buckets.positions tag).length =
      ((ofScenarios scenarios).buckets.positions tag).length +
        scenarios.countP fun s => statusTag s.implemented == tag := by
  rw [length_positions_ofScenarios, length_positions_ofScenarios, ofScenarios, ofScenarios]
  induction scenarios with
  | nil => rfl
  | cons s scenarios ih =>
    simp only [List.map_cons, List.flatMap_cons, List.count_append, List.countP_cons] at ih ⊢
    rw [ih]
    simp only [Scenario.allTags, Scenario.addStatusTags, List.count_append, List.count_singleton]
    omega

/-- Two sites that differ in synthetic tags: the second one has them. -/
structure Site.GainsStatusTags (plain tagged : Site) : Prop where
  /-- Without the last tag of every block and of every step, the trees are equal. -/
  root_eq : tagged.root.mapBlocks Scenario.dropStatusTags = plain.root
  other : ∀ tag, tag ≠ "Implemented" ∧ tag ≠ "Not Implemented" →
    (tagged.index.buckets.positions tag).length = (plain.index.buckets.positions tag).length
  implemented : (tagged.index.buckets.positions "Implemented").length =
    (plain.index.buckets.positions "Implemented").length +
      plain.root.scenarios.countP fun s => s.implemented
  notImplemented : (tagged.index.buckets.positions "Not Implemented").length =
    (plain.index.buckets.positions "Not Implemented").length +
      plain.root.scenarios.countP fun s => !s.implemented

theorem Site.gainsStatusTags_ofTree (tree : DocTree) :
    (Site.ofTree tree).GainsStatusTags (.ofTree (tree.mapBlocks Scenario.addStatusTags)) := by
  have hlength : ∀ tag,
      ((Site.ofTree (tree.mapBlocks Scenario.addStatusTags)).index.buckets.positions tag).length =
        ((Site.ofTree tree).index.buckets.positions tag).length +
          tree.scenarios.countP fun s => statusTag s.implemented == tag := by
    intro tag
    rw [ofTree, DocTree.scenarios_mapBlocks]
    exact TagIndex.length_positions_addStatusTags tree.scenarios tag
  refine ⟨?_, fun tag htag => ?_, ?_, ?_⟩
  · exact tree.mapBlocks_leftInverse Scenario.dropStatusTags_addStatusTags
  · -- No block is told about by another tag.
    have hnone : (tree.scenarios.countP fun s => statusTag s.implemented == tag) = 0 := by
      rw [List.countP_eq_zero]
      intro s _
      cases s.implemented <;> simp [statusTag, Ne.symm htag.1, Ne.symm htag.2]
    rw [hlength, hnone, Nat.add_zero]
  · rw [hlength]
    refine congrArg _ (List.countP_congr fun s _ => ?_)
    cases s.implemented <;> simp [statusTag]
  · rw [hlength]
    refine congrArg _ (List.countP_congr fun s _ => ?_)
    cases s.implemented <;> simp [statusTag]

/-- Both runs fail with the same error, or the second one gives the site of the first with synthetic
tags. -/
def SameButStatusTags {ε : Type} (plain tagged : Except ε Site) : Prop :=
  (∃ e, plain = .error e ∧ tagged = .error e) ∨
    ∃ site site', plain = .ok site ∧ tagged = .ok site' ∧ site.GainsStatusTags site'

theorem SiteBuilder.build_addTags (p : SiteBuilder) (disk : Disk) (root output : Path) :
    SameButStatusTags ({ p with addTags := false }.build disk root output)
      ({ p with addTags := true }.build disk root output) := by
  have hbuild := TreeBuilder.build_addTags (p.treeBuilder root output) disk root
  have hplain : { p with addTags := false }.build disk root output =
      ({ p.treeBuilder root output with addTags := false }.build disk root).map Site.ofTree := rfl
  have htagged : { p with addTags := true }.build disk root output =
      ({ p.treeBuilder root output with addTags := true }.build disk root).map Site.ofTree := rfl
  rw [hplain, htagged, hbuild]
  cases { p.treeBuilder root output with addTags := false }.build disk root with
  | error e => exact Or.inl ⟨e, rfl, rfl⟩
  | ok tree => exact Or.inr ⟨_, _, rfl, rfl, Site.gainsStatusTags_ofTree tree⟩

theorem buildSite_addTags (lib : Libraries) (disk : Disk) (config : Configuration)
    (root output : Path) :
    SameButStatusTags
      (buildSite lib disk { config with addImplementedTags := false } root output)
      (buildSite lib disk { config with addImplementedTags := true } root output) := by
  unfold buildSite SiteBuilder.ofConfig
  -- The registry does not depend on the tags.
  cases Registry.ofSources lib.items? lib.fits disk config.steps with
  | error e => exact Or.inl ⟨.stepIndex e, rfl, rfl⟩
  | ok registry =>
    simp only [Except.map]
    rcases SiteBuilder.build_addTags ⟨.ofFeatures lib.feature?, lib.render, registry.matcher, false⟩
      disk root output with ⟨e, hplain, htagged⟩ | ⟨site, site', hplain, htagged, hgains⟩
    · exact Or.inl ⟨.build e, by rw [hplain], by rw [htagged]⟩
    · exact Or.inr ⟨site, site', by rw [hplain], by rw [htagged], hgains⟩

/-- **Synthetic tags only inform.**

A pass over a document gives the same result or the same error with synthetic tags and without, and
leaves the same document once the new tags are cut off. So a run fails with the same error, or it
ends well both times; and then the trees are equal once the synthetic tags are dropped. The buckets
are of the same sizes, but for those of the synthetic tags, which have one more member for each
block that is implemented, or is not. -/
theorem status_tags_only_inform :
    (∀ (matcher : Matcher) (d : Document),
      (d.resolve matcher true).result = (d.resolve matcher false).result ∧
        (d.resolve matcher true).subject.cutTagsTo d = (d.resolve matcher false).subject ∧
        List.Forall₂ (fun c c' => c.GainsTags 0 c' ∨ c.GainsTags 1 c') d.children
          (d.resolve matcher true).subject.children) ∧
      (∀ (p : SiteBuilder) (disk : Disk) (root output : Path),
        SameButStatusTags ({ p with addTags := false }.build disk root output)
          ({ p with addTags := true }.build disk root output)) ∧
      ∀ (lib : Libraries) (disk : Disk) (config : Configuration) (root output : Path),
        SameButStatusTags
          (buildSite lib disk { config with addImplementedTags := false } root output)
          (buildSite lib disk { config with addImplementedTags := true } root output) :=
  ⟨fun matcher d => d.resolve_both matcher, SiteBuilder.build_addTags, buildSite_addTags⟩

end FeatureDocs
