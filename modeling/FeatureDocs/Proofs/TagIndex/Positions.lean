import FeatureDocs.Proofs.TagIndex
import FeatureDocs.Proofs.Text.Utf8
import Mathlib.Algebra.Ring.Nat

/-!
# Positions in buckets

A bucket refers to scenarios by their positions in the list of the index. Positions come in one
scenario after another, so they never decrease, and each of them is the position of a scenario. All
buckets together hold one position for each tag that counts for a scenario.

## Main definitions

* `TagBuckets.occurrences`: the positions of the scenarios that a tag counts for
* `TagBuckets.size`: the number of positions in all buckets

## Main results

* `TagBuckets.count_occurrences`: how often each position occurs
* `TagBuckets.size_ofScenarios`: the number of positions
* `TagIndex.buckets_account_for_tags`: what the buckets of an index hold
-/

namespace FeatureDocs

namespace TagBuckets

/-! ## The positions of a tag -/

/-- The positions of scenarios, the first of which has the given one, each as often as the tag
counts for the scenario. -/
def occurrences (tag : String) (position : Nat) (scenarios : List Scenario) : List Nat :=
  (scenarios.zipIdx position).flatMap fun x => List.replicate (x.1.allTags.count tag) x.2

variable {tag : String} {position : Nat} {scenarios : List Scenario}

@[simp] theorem occurrences_nil (tag : String) (position : Nat) :
    occurrences tag position [] = [] := rfl

theorem occurrences_cons (tag : String) (position : Nat) (s : Scenario)
    (scenarios : List Scenario) :
    occurrences tag position (s :: scenarios) =
      List.replicate (s.allTags.count tag) position ++
        occurrences tag (position + 1) scenarios := rfl

theorem bounds_of_mem_occurrences {i : Nat} (h : i ∈ occurrences tag position scenarios) :
    position ≤ i ∧ i < scenarios.length + position := by
  obtain ⟨x, hx, hi⟩ := List.mem_flatMap.mp h
  rw [List.eq_of_mem_replicate hi]
  exact ⟨List.le_snd_of_mem_zipIdx hx, List.snd_lt_of_mem_zipIdx hx⟩

/-- Positions never decrease. -/
theorem pairwise_occurrences (tag : String) (position : Nat) (scenarios : List Scenario) :
    (occurrences tag position scenarios).Pairwise (· ≤ ·) := by
  induction scenarios generalizing position with
  | nil => exact .nil
  | cons s scenarios ih =>
    rw [occurrences_cons, List.pairwise_append]
    refine ⟨List.pairwise_replicate.mpr (Or.inr le_rfl), ih (position + 1), fun i hi j hj => ?_⟩
    -- The positions of later scenarios are greater.
    rw [List.eq_of_mem_replicate hi]
    exact Nat.le_of_succ_le (bounds_of_mem_occurrences hj).1

/-- **A position occurs as often as the tag counts for the scenario there.** -/
theorem count_occurrences (tag : String) (position : Nat) (scenarios : List Scenario) (i : Nat) :
    (occurrences tag position scenarios).count (position + i) =
      (scenarios[i]?.map fun s => s.allTags.count tag).getD 0 := by
  induction scenarios generalizing position i with
  | nil => simp
  | cons s scenarios ih =>
    rw [occurrences_cons, List.count_append, List.count_replicate]
    cases i with
    | zero =>
      have hlater : (occurrences tag (position + 1) scenarios).count position = 0 :=
        List.count_eq_zero.mpr fun h => by
          have := (bounds_of_mem_occurrences h).1
          omega
      simp [hlater]
    | succ i =>
      have hnext : position + (i + 1) = position + 1 + i := by omega
      have hne : ¬ (position == position + 1 + i) = true := by
        rw [beq_iff_eq]
        omega
      rw [hnext, ih, if_neg hne, Nat.zero_add, List.getElem?_cons_succ]

/-! ## The number of positions -/

/-- The number of positions in all buckets. -/
def size (b : TagBuckets) : Nat := (b.map fun x => x.2.length).sum

theorem size_cons (x : String × List Nat) (b : TagBuckets) :
    size (x :: b) = x.2.length + b.size := by
  rw [size, List.map_cons, List.sum_cons]
  rfl

/-- One more position, in whichever bucket. -/
theorem size_add (tag : String) (position : Nat) (b : TagBuckets) :
    (add tag position b).size = b.size + 1 := by
  induction b with
  | nil => rfl
  | cons x b ih =>
    obtain ⟨t, ps⟩ := x
    rw [add]
    split
    · rw [size_cons, size_cons, List.length_append, List.length_singleton, Nat.add_right_comm]
    · split
      · rw [size_cons, List.length_singleton, Nat.add_comm]
      · rw [size_cons, size_cons, ih, Nat.add_assoc]

theorem size_foldl_add (tags : List String) (position : Nat) (b : TagBuckets) :
    size (tags.foldl (fun b t => add t position b) b) = b.size + tags.length := by
  induction tags generalizing b with
  | nil => rfl
  | cons tag tags ih =>
    rw [List.foldl_cons, ih, size_add, List.length_cons]
    omega

/-- **Each tag of each scenario adds one position.** -/
theorem size_ofScenarios (position : Nat) (b : TagBuckets) (scenarios : List Scenario) :
    (ofScenarios position b scenarios).size =
      b.size + (scenarios.map fun s => s.allTags.length).sum := by
  induction scenarios generalizing position b with
  | nil => rfl
  | cons s scenarios ih =>
    rw [ofScenarios, ih, size_foldl_add, List.map_cons, List.sum_cons, Nat.add_assoc]

end TagBuckets

namespace TagIndex

/-! ## Members -/

open TagBuckets (occurrences sound_nil)

theorem positions_ofScenarios (scenarios : List Scenario) (tag : String) :
    (ofScenarios scenarios).buckets.positions tag = occurrences tag 0 scenarios :=
  (sound_nil.ofScenarios 0 scenarios).2 tag

/-- Positions that are all those of scenarios lead to one scenario each. -/
theorem forall₂_members {index : TagIndex} {ps : List Nat}
    (h : ∀ i ∈ ps, i < index.scenarios.length) :
    List.Forall₂ (fun i s => index.scenarios[i]? = some s) ps (index.members ps) := by
  induction ps with
  | nil => exact .nil
  | cons i ps ih =>
    obtain ⟨hi, hps⟩ := List.forall_mem_cons.mp h
    have hget := List.getElem?_eq_getElem hi
    rw [members, List.filterMap_cons, hget]
    exact .cons hget (ih hps)

/-- A stored bucket is the one that the search for its tag ends with, and holds the occurrences of
the tag. -/
theorem bucket_of_mem {scenarios : List Scenario} {tag : String} {ps : List Nat}
    (h : (tag, ps) ∈ (ofScenarios scenarios).buckets) :
    (ofScenarios scenarios).buckets.positions tag = ps ∧ ps = occurrences tag 0 scenarios ∧
      ps ≠ [] := by
  obtain ⟨hpositions, hne⟩ := (sound_nil.ofScenarios 0 scenarios).1.mem_iff.mp h
  exact ⟨hpositions, by rw [← positions_ofScenarios, ← hpositions]; rfl, hne⟩

/-- Every stored position is that of a scenario. -/
theorem lt_length_of_mem_bucket {scenarios : List Scenario} {tag : String} {ps : List Nat}
    (h : (tag, ps) ∈ (ofScenarios scenarios).buckets) :
    ∀ i ∈ ps, i < (ofScenarios scenarios).scenarios.length := by
  intro i hi
  have hlength : (ofScenarios scenarios).scenarios.length = scenarios.length := List.length_map _
  rw [(bucket_of_mem h).2.1] at hi
  rw [hlength]
  exact (TagBuckets.bounds_of_mem_occurrences hi).2

/-- A position occurs in a bucket as often as the tag counts for the scenario there. -/
theorem count_positions_ofScenarios {scenarios : List Scenario} {i : Nat} {s : Scenario}
    (h : scenarios[i]? = some s) (tag : String) :
    ((ofScenarios scenarios).buckets.positions tag).count i = s.allTags.count tag := by
  have hcount := TagBuckets.count_occurrences tag 0 scenarios i
  rw [Nat.zero_add, h] at hcount
  rw [positions_ofScenarios, hcount]
  rfl

theorem withTag_eq_members (index : TagIndex) (tag : String) :
    index.withTag tag = index.members (index.buckets.positions tag) := rfl

/-- Each stored position leads to a member, so no member gets lost. -/
theorem forall₂_withTag {scenarios : List Scenario} {tag : String} {ps : List Nat}
    (h : (tag, ps) ∈ (ofScenarios scenarios).buckets) :
    List.Forall₂ (fun i s => (ofScenarios scenarios).scenarios[i]? = some s) ps
      ((ofScenarios scenarios).withTag tag) := by
  rw [withTag_eq_members, (bucket_of_mem h).1]
  exact forall₂_members (lt_length_of_mem_bucket h)

/-! ## The list of tags -/

theorem names_tags (index : TagIndex) :
    index.tags.map TagCount.name = index.buckets.map Prod.fst := by
  rw [tags, List.map_map]
  rfl

theorem sum_counts_tags (index : TagIndex) :
    (index.tags.map TagCount.count).sum = index.buckets.size := by
  rw [tags, List.map_map]
  rfl

/-- A tag that is not listed has no members, and counts for no scenario. -/
theorem withTag_of_not_listed {scenarios : List Scenario} {tag : String}
    (h : tag ∉ (ofScenarios scenarios).tags.map TagCount.name) :
    (ofScenarios scenarios).withTag tag = [] ∧ ∀ s ∈ scenarios, tag ∉ s.allTags := by
  rw [names_tags] at h
  have hnone := TagBuckets.positions_of_not_mem h
  refine ⟨by rw [withTag_eq_members, hnone]; rfl, fun s hs => ?_⟩
  -- If the tag counted for a scenario, the position of that scenario would be in its bucket.
  obtain ⟨i, hi⟩ := List.mem_iff_getElem?.mp hs
  have hcount := count_positions_ofScenarios hi tag
  rw [hnone] at hcount
  exact List.count_eq_zero.mp hcount.symm

/-- **The buckets of an index account for the tags of its scenarios.**

The scenarios are those given, in order, with all tags that count for them. A bucket is never empty;
its positions never decrease and are those of scenarios, so each of them leads to a member; and a
position occurs in it as often as the tag counts for the scenario there. The tags are listed in the
ascending order of their bytes, with the numbers of their members, which add up to the number of all
tags of all scenarios. A tag that is not listed has no members, and counts for no scenario. -/
theorem buckets_account_for_tags (scenarios : List Scenario) :
    let index := ofScenarios scenarios
    index.scenarios = scenarios.map (fun s => { s with tags := s.tags ++ s.featureTags }) ∧
      (∀ tag ps, (tag, ps) ∈ index.buckets →
        ps ≠ [] ∧ ps.Pairwise (· ≤ ·) ∧ (∀ i ∈ ps, i < index.scenarios.length) ∧
          List.Forall₂ (fun i s => index.scenarios[i]? = some s) ps (index.withTag tag) ∧
          ∀ i s, scenarios[i]? = some s → ps.count i = (s.tags ++ s.featureTags).count tag) ∧
      index.tags = index.buckets.map (fun b => ⟨b.1, (index.withTag b.1).length⟩) ∧
      (index.tags.map fun t => Utf8.encode t.name.toList).Pairwise (· < ·) ∧
      (index.tags.map TagCount.count).sum =
        (scenarios.map fun s => (s.tags ++ s.featureTags).length).sum ∧
      ∀ tag, tag ∉ index.tags.map TagCount.name →
        index.withTag tag = [] ∧ ∀ s ∈ scenarios, tag ∉ s.tags ++ s.featureTags := by
  intro index
  refine ⟨rfl, fun tag ps h => ?_, ?_, ?_, ?_, fun tag => withTag_of_not_listed⟩
  · obtain ⟨hpositions, hps, hne⟩ := bucket_of_mem h
    have hascending : ps.Pairwise (· ≤ ·) := hps ▸ TagBuckets.pairwise_occurrences tag 0 scenarios
    refine ⟨hne, hascending, lt_length_of_mem_bucket h, forall₂_withTag h, fun i s hs => ?_⟩
    rw [← hpositions]
    exact count_positions_ofScenarios hs tag
  · refine List.map_congr_left fun b hb => ?_
    exact congrArg (TagCount.mk b.1) (forall₂_withTag hb).length_eq
  · have hascending := ascending_tags scenarios
    rw [List.pairwise_map] at hascending ⊢
    exact hascending.imp fun hlt => Utf8.encode_lt_encode (String.lt_iff.mp hlt)
  · rw [sum_counts_tags]
    exact (TagBuckets.size_ofScenarios 0 [] scenarios).trans (Nat.zero_add _)

end TagIndex

end FeatureDocs
