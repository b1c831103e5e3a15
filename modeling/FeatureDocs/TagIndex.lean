import FeatureDocs.Document.Basic

/-!
# The tag index

Scenarios are indexed by the tags that count for them. A scenario is in the bucket of a tag as
often as the tag occurs among those, and a bucket holds positions in the list of scenarios, in
ascending order. The buckets are ordered by tag, by code points.

## Main definitions

* `TagIndex`, `TagIndex.ofScenarios`: the index of a list of scenarios
* `TagIndex.withTag`: the members of a bucket
-/

namespace FeatureDocs

/-- A tag and the number of members of its bucket. -/
structure TagCount where
  name : String
  count : Nat
  deriving DecidableEq, Repr

/-- Positions by tag, the tags in ascending order. -/
abbrev TagBuckets := List (String × List Nat)

/-- The buckets with one more position in the bucket of a tag. -/
def TagBuckets.add (tag : String) (position : Nat) : TagBuckets → TagBuckets
  | [] => [(tag, [position])]
  | (t, ps) :: rest =>
    if tag = t then (t, ps ++ [position]) :: rest
    else if tag < t then (tag, [position]) :: (t, ps) :: rest
    else (t, ps) :: add tag position rest

/-- The buckets of scenarios, the first of which has the given position. -/
def TagBuckets.ofScenarios (position : Nat) (buckets : TagBuckets) : List Scenario → TagBuckets
  | [] => buckets
  | s :: ss =>
    ofScenarios (position + 1) (s.allTags.foldl (fun b t => b.add t position) buckets) ss

/-- Scenarios by tag. -/
structure TagIndex where
  /-- The scenarios, each with the tags that count for it. -/
  scenarios : List Scenario
  buckets : TagBuckets
  deriving DecidableEq, Repr

namespace TagIndex

/-- The index of a list of scenarios. -/
def ofScenarios (scenarios : List Scenario) : TagIndex where
  scenarios := scenarios.map fun s => { s with tags := s.allTags }
  buckets := TagBuckets.ofScenarios 0 [] scenarios

/-- The tags in order, with the sizes of their buckets. -/
def tags (index : TagIndex) : List TagCount :=
  index.buckets.map fun (name, positions) => ⟨name, positions.length⟩

/-- The scenarios at the given positions. -/
def members (index : TagIndex) (positions : List Nat) : List Scenario :=
  positions.filterMap fun i => index.scenarios[i]?

/-- The members of the bucket of a tag; a tag without a bucket has none. -/
def withTag (index : TagIndex) (tag : String) : List Scenario :=
  index.members ((index.buckets.lookup tag).getD [])

end TagIndex

end FeatureDocs
