import FeatureDocs.Proofs.Association
import FeatureDocs.TagIndex
import Mathlib.Data.List.Sort

/-!
# Counting tags

The bucket of a tag holds the position of a scenario once for each time that the tag counts for it.
Buckets are added to one tag at a time; the tags stay in ascending order and no bucket is ever
empty, which is why a bucket is found where the search for it ends.

## Main definitions

* `TagBuckets.positions`: the bucket of a tag
* `TagBuckets.Sound`: the tags ascend, and no bucket is empty

## Main results

* `TagBuckets.Sound.positions_add`: one more position in the bucket of one tag
* `TagIndex.withTag_ofScenarios`, `TagIndex.mem_tags_iff`, `TagIndex.ascending_tags`: what an index
  tells about each tag
* `TagIndex.tags_perm`, `TagIndex.withTag_perm`: the same scenarios in another order
-/

namespace FeatureDocs

namespace TagBuckets

/-- The bucket of a tag. -/
def positions (b : TagBuckets) (tag : String) : List Nat := (b.lookup tag).getD []

/-- The tags ascend, and no bucket is empty. -/
structure Sound (b : TagBuckets) : Prop where
  ascending : (b.map Prod.fst).Pairwise (· < ·)
  nonempty : ∀ x ∈ b, x.2 ≠ []

theorem Sound.nodup {b : TagBuckets} (h : b.Sound) : (b.map Prod.fst).Nodup :=
  h.ascending.imp String.ne_of_lt

theorem sound_nil : Sound [] := ⟨.nil, by simp⟩

theorem positions_cons (t : String) (ps : List Nat) (b : TagBuckets) (tag : String) :
    positions ((t, ps) :: b) tag = if tag = t then ps else b.positions tag := by
  unfold positions
  rw [List.lookup_cons]
  split <;> simp_all

theorem positions_of_not_mem {b : TagBuckets} {tag : String} (h : tag ∉ b.map Prod.fst) :
    b.positions tag = [] := by
  induction b with
  | nil => rfl
  | cons x b ih =>
    rw [List.map_cons, List.mem_cons, not_or] at h
    rw [positions_cons, if_neg h.1, ih h.2]

/-- A bucket is one of a list exactly if it is what the search for its tag ends with. -/
theorem Sound.mem_iff {b : TagBuckets} (h : b.Sound) {tag : String} {ps : List Nat} :
    (tag, ps) ∈ b ↔ b.positions tag = ps ∧ ps ≠ [] := by
  unfold positions
  constructor
  · intro hmem
    rw [(lookup_eq_some_iff_mem h.nodup).mpr hmem]
    exact ⟨rfl, h.nonempty _ hmem⟩
  · rintro ⟨rfl, hne⟩
    cases hl : b.lookup tag with
    | none => simp [hl] at hne
    | some ps => exact (lookup_eq_some_iff_mem h.nodup).mp hl

/-! ## One more position -/

theorem mem_keys_add {b : TagBuckets} {tag t : String} {position : Nat}
    (h : t ∈ (add tag position b).map Prod.fst) : t = tag ∨ t ∈ b.map Prod.fst := by
  induction b with
  | nil => simpa [add] using h
  | cons x b ih =>
    obtain ⟨u, ps⟩ := x
    rw [add] at h
    split at h
    · exact Or.inr h
    · split at h
      · simpa using h
      · rw [List.map_cons, List.mem_cons] at h ⊢
        rcases h with h | h
        · exact Or.inr (Or.inl h)
        · exact (ih h).imp_right Or.inr

/-- Buckets stay sound. -/
theorem Sound.add {b : TagBuckets} (h : b.Sound) (tag : String) (position : Nat) :
    (add tag position b).Sound := by
  induction b with
  | nil => exact ⟨by simp [TagBuckets.add], by simp [TagBuckets.add]⟩
  | cons x b ih =>
    obtain ⟨t, ps⟩ := x
    have hkeys := List.pairwise_cons.mp h.ascending
    have hne := List.forall_mem_cons.mp h.nonempty
    rw [TagBuckets.add]
    split
    · exact ⟨h.ascending, List.forall_mem_cons.mpr ⟨by simp, hne.2⟩⟩
    · rename_i htag
      split
      · rename_i hlt
        -- A new bucket in front.
        refine ⟨List.pairwise_cons.mpr ⟨fun u hu => ?_, h.ascending⟩,
          List.forall_mem_cons.mpr ⟨by simp, h.nonempty⟩⟩
        rcases List.mem_cons.mp hu with rfl | hu
        · exact hlt
        · exact String.lt_trans hlt (hkeys.1 u hu)
      · rename_i hnot
        obtain ⟨hasc, hnonempty⟩ := ih ⟨hkeys.2, hne.2⟩
        refine ⟨List.pairwise_cons.mpr ⟨fun u hu => ?_, hasc⟩,
          List.forall_mem_cons.mpr ⟨hne.1, hnonempty⟩⟩
        rcases mem_keys_add hu with rfl | hu
        · -- The new tag is neither the first one nor before it.
          exact String.not_le.mp fun hle => htag (String.le_antisymm hle (String.not_lt.mp hnot))
        · exact hkeys.1 u hu

/-- **The position comes last in the bucket of its tag, and no other bucket changes.** -/
theorem Sound.positions_add {b : TagBuckets} (h : b.Sound) (tag t : String) (position : Nat) :
    positions (TagBuckets.add tag position b) t =
      b.positions t ++ if t = tag then [position] else [] := by
  induction b with
  | nil =>
    rw [TagBuckets.add, positions_cons]
    rfl
  | cons x b ih =>
    obtain ⟨u, ps⟩ := x
    have hkeys := List.pairwise_cons.mp h.ascending
    rw [TagBuckets.add]
    split
    · rename_i htag
      subst htag
      rw [positions_cons, positions_cons]
      split <;> simp
    · rename_i htag
      split
      · rename_i hlt
        -- A tag in front of all others has no bucket yet.
        have hnew : positions ((u, ps) :: b) tag = [] := by
          refine positions_of_not_mem fun hmem => ?_
          rcases List.mem_cons.mp hmem with rfl | hmem
          · exact htag rfl
          · exact String.lt_asymm hlt (hkeys.1 tag hmem)
        rw [positions_cons]
        split
        · rename_i ht
          rw [ht, hnew, List.nil_append]
        · rw [List.append_nil]
      · rw [positions_cons, positions_cons,
          ih ⟨hkeys.2, (List.forall_mem_cons.mp h.nonempty).2⟩]
        split
        · rename_i ht
          rw [if_neg (ht ▸ Ne.symm htag), List.append_nil]
        · rfl

/-! ## All tags of all scenarios -/

/-- A position that is added for several tags. -/
theorem Sound.foldl_add {b : TagBuckets} (h : b.Sound) (tags : List String) (position : Nat) :
    Sound (tags.foldl (fun b t => TagBuckets.add t position b) b) ∧
      ∀ t, positions (tags.foldl (fun b t => TagBuckets.add t position b) b) t =
        b.positions t ++ List.replicate (tags.count t) position := by
  -- Soundness goes along: what the next position changes is known of sound buckets only.
  induction tags generalizing b with
  | nil => exact ⟨h, fun t => (List.append_nil _).symm⟩
  | cons tag tags ih =>
    obtain ⟨hsound, hpositions⟩ := ih (h.add tag position)
    refine ⟨hsound, fun t => ?_⟩
    rw [List.foldl_cons, hpositions, h.positions_add, List.append_assoc, List.count_cons]
    by_cases ht : t = tag
    · subst ht
      simp [List.replicate_succ]
    · simp [ht, Ne.symm ht]

/-- **The bucket of a tag holds a position as often as the tag counts for the scenario there.** -/
theorem Sound.ofScenarios {b : TagBuckets} (h : b.Sound) (position : Nat)
    (scenarios : List Scenario) :
    (TagBuckets.ofScenarios position b scenarios).Sound ∧
      ∀ t, (TagBuckets.ofScenarios position b scenarios).positions t =
        b.positions t ++ (scenarios.zipIdx position).flatMap fun x =>
          List.replicate (x.1.allTags.count t) x.2 := by
  induction scenarios generalizing b position with
  | nil => exact ⟨h, fun t => (List.append_nil _).symm⟩
  | cons s scenarios ih =>
    obtain ⟨hfold, hpositions⟩ := h.foldl_add s.allTags position
    obtain ⟨hsound, hrest⟩ := ih hfold (position + 1)
    refine ⟨hsound, fun t => ?_⟩
    rw [TagBuckets.ofScenarios, hrest, hpositions, List.append_assoc, List.zipIdx_cons,
      List.flatMap_cons]

end TagBuckets

namespace TagIndex

/-- The members of a bucket: each scenario as often as the tag counts for it. -/
theorem withTag_ofScenarios (scenarios : List Scenario) (tag : String) :
    (ofScenarios scenarios).withTag tag =
      (ofScenarios scenarios).scenarios.flatMap fun s => List.replicate (s.tags.count tag) s := by
  have hpositions := (TagBuckets.sound_nil.ofScenarios 0 scenarios).2 tag
  have hbucket : ((ofScenarios scenarios).buckets.lookup tag).getD [] =
      (scenarios.zipIdx 0).flatMap fun x => List.replicate (x.1.allTags.count tag) x.2 :=
    hpositions
  -- Every position in a bucket is that of a scenario.
  have hfound : ∀ x ∈ scenarios.zipIdx 0, (ofScenarios scenarios).scenarios[x.2]? =
      some { x.1 with tags := x.1.allTags } := by
    intro x hx
    have hget := List.mem_zipIdx_iff_getElem?.mp hx
    rw [ofScenarios, List.getElem?_map, hget]
    rfl
  calc (ofScenarios scenarios).withTag tag
      = (scenarios.zipIdx 0).flatMap fun x =>
          List.replicate (x.1.allTags.count tag) { x.1 with tags := x.1.allTags } := by
        rw [withTag, members, hbucket, List.filterMap_flatMap]
        refine List.flatMap_congr fun x hx => ?_
        rw [List.filterMap_replicate_of_some (hfound x hx)]
    _ = ((scenarios.zipIdx 0).map Prod.fst).flatMap fun s =>
          List.replicate (s.allTags.count tag) { s with tags := s.allTags } := by
        rw [List.flatMap_map]
    _ = (ofScenarios scenarios).scenarios.flatMap fun s =>
          List.replicate (s.tags.count tag) s := by
        rw [List.zipIdx_map_fst, ofScenarios, List.flatMap_map]

/-- A bucket is as long as its tag occurs. -/
theorem length_positions_ofScenarios (scenarios : List Scenario) (tag : String) :
    ((ofScenarios scenarios).buckets.positions tag).length =
      ((ofScenarios scenarios).scenarios.flatMap Scenario.tags).count tag := by
  have hpositions := (TagBuckets.sound_nil.ofScenarios 0 scenarios).2 tag
  have hmap : (scenarios.zipIdx 0).map (fun x => x.1.allTags.count tag) =
      scenarios.map fun s => s.allTags.count tag := by
    rw [← List.zipIdx_map_fst 0 scenarios, List.map_map, List.zipIdx_map_fst]
    rfl
  rw [ofScenarios, hpositions, List.flatMap_map, List.count_flatMap]
  simp [TagBuckets.positions, List.length_flatMap, hmap, Function.comp_def]

/-- The tags of an index, each with the number of times that it occurs. -/
theorem mem_tags_iff {scenarios : List Scenario} {tag : String} {count : Nat} :
    ⟨tag, count⟩ ∈ (ofScenarios scenarios).tags ↔
      count = ((ofScenarios scenarios).scenarios.flatMap Scenario.tags).count tag ∧ 0 < count := by
  have hsound := (TagBuckets.sound_nil.ofScenarios 0 scenarios).1
  rw [← length_positions_ofScenarios, tags, List.mem_map]
  constructor
  · rintro ⟨⟨t, ps⟩, hmem, heq⟩
    obtain ⟨rfl, rfl⟩ := TagCount.mk.inj heq
    obtain ⟨hps, hne⟩ := hsound.mem_iff.mp hmem
    exact ⟨congrArg List.length hps.symm, List.length_pos_iff.mpr hne⟩
  · rintro ⟨rfl, hpos⟩
    exact ⟨_, hsound.mem_iff.mpr ⟨rfl, List.length_pos_iff.mp hpos⟩, rfl⟩

/-- The tags of an index ascend. -/
theorem ascending_tags (scenarios : List Scenario) :
    ((ofScenarios scenarios).tags.map TagCount.name).Pairwise (· < ·) := by
  have hnames : (ofScenarios scenarios).tags.map TagCount.name =
      (ofScenarios scenarios).buckets.map Prod.fst := by
    rw [tags, List.map_map]
    rfl
  rw [hnames]
  exact (TagBuckets.sound_nil.ofScenarios 0 scenarios).1.ascending

/-! ## The order of scenarios -/

/-- The tags of an index do not depend on the order of the scenarios. -/
theorem tags_perm {scenarios scenarios' : List Scenario} (h : scenarios.Perm scenarios') :
    (ofScenarios scenarios).tags = (ofScenarios scenarios').tags := by
  have hirrefl : Std.Irrefl fun x y : TagCount => x.name < y.name :=
    ⟨fun x => String.lt_irrefl x.name⟩
  have hantisymm : Std.Antisymm fun x y : TagCount => x.name < y.name :=
    ⟨fun _ _ hlt hgt => absurd hgt (String.lt_asymm hlt)⟩
  refine (List.pairwise_map.mp (ascending_tags scenarios)).eq_of_mem_iff
    (List.pairwise_map.mp (ascending_tags scenarios')) ?_
  rintro ⟨tag, count⟩
  -- Every tag occurs as often in any order.
  have hall : (ofScenarios scenarios).scenarios.Perm (ofScenarios scenarios').scenarios := h.map _
  rw [mem_tags_iff, mem_tags_iff, (hall.flatMap_right Scenario.tags).count_eq tag]

/-- In any order of the scenarios a tag has the same members, up to order. -/
theorem withTag_perm {scenarios scenarios' : List Scenario} (h : scenarios.Perm scenarios')
    (tag : String) :
    ((ofScenarios scenarios).withTag tag).Perm ((ofScenarios scenarios').withTag tag) := by
  rw [withTag_ofScenarios, withTag_ofScenarios]
  exact (h.map _).flatMap_right _

end TagIndex

end FeatureDocs
