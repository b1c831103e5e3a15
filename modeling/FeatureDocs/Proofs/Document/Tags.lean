import FeatureDocs.Document.OfFeature
import FeatureDocs.Proofs.Document.Resolve
import Mathlib.Data.List.Forall2

/-!
# The tags of blocks

A block of a document has the tags of the scenario that it comes from, followed by those of the
rule around it. They lose the `@` in front before anything else is done to them; the synthetic tag
comes behind them, and what the block takes over from its feature is kept apart.

## Main definitions

* `Gherkin.Feature.blockTags`: the tags of the blocks of a feature, as written
* `Scenario.syntheticTags`: the tags that tell whether a block is implemented

## Main results

* `Document.tags_ofFeature`: the document of a feature has them
* `Scenario.tags_resolve`: a pass of the resolver adds the synthetic tags, and only those
-/

namespace FeatureDocs

/-- The tags of the blocks of a feature as written, block by block: those of a scenario and then
those of its rule, and none for a background. -/
def Gherkin.Feature.blockTags (f : Gherkin.Feature) : List (List String) :=
  f.background.toList.map (fun _ => []) ++ f.scenarios.map Gherkin.Scenario.tags ++
    f.rules.flatMap fun r =>
      r.background.toList.map (fun _ => []) ++ r.scenarios.map fun s => s.tags ++ r.tags

/-- The synthetic tags of a block, if they are wanted. -/
def Scenario.syntheticTags (addTags : Bool) (s : Scenario) : List String :=
  if addTags then [statusTag s.implemented] else []

theorem Scenario.tags_ofRule (r : Gherkin.Rule) :
    (Scenario.ofRule r).map Scenario.tags =
      r.background.toList.map (fun _ => []) ++ r.scenarios.map fun s => s.tags ++ r.tags := by
  rw [ofRule, List.map_append, List.map_map, List.map_map]
  rfl

theorem Document.tags_ofFeature (f : Gherkin.Feature) :
    (Document.ofFeature f).children.map Scenario.tags = f.blockTags := by
  have hscenarios : (f.scenarios.map (Scenario.ofScenario none [])).map Scenario.tags =
      f.scenarios.map Gherkin.Scenario.tags := by
    rw [List.map_map]
    exact List.map_congr_left fun s _ => List.append_nil s.tags
  rw [ofFeature, Gherkin.Feature.blockTags, List.map_append, List.map_append, List.map_map,
    hscenarios, List.map_flatMap]
  simp only [Scenario.tags_ofRule]
  rfl

/-- Rendering leaves the tags of the blocks as they are. -/
theorem Document.tags_renderDescriptions (render : String → String) (d : Document) :
    (d.renderDescriptions render).children.map Scenario.tags = d.children.map Scenario.tags := by
  rw [renderDescriptions, List.map_map]
  rfl

/-- **A pass of the resolver adds the synthetic tags behind all others.** -/
theorem Scenario.tags_resolve {matcher : Matcher} {addTags implemented : Bool} {s : Scenario}
    (h : (s.resolve matcher addTags).result = .ok implemented) :
    (s.resolve matcher addTags).subject.tags =
      s.tags ++ syntheticTags addTags (s.resolve matcher addTags).subject := by
  unfold resolve at h ⊢
  split at h
  · simp at h
  · -- The flag of the block is set before the tag that tells it is added.
    cases addTags with
    | true => rfl
    | false => exact (List.append_nil _).symm

end FeatureDocs
