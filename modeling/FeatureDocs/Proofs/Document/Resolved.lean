import FeatureDocs.Proofs.Document.Resolve
import FeatureDocs.Proofs.Document.Status
import FeatureDocs.StandIn

/-!
# Resolved documents

A document whose steps are all answered is resolved as a whole: each step has its answer, whatever
was recorded before, and the flags tell which answers are matches. A block that is not implemented
does not keep the later ones from being resolved. The synthetic tag of a step tells of all steps up
to it, so the tags of a block change from one to the other at most once.

## Main definitions

* `Matcher.covers`: a matcher answers a step with a match
* `Matcher.answer`: what a matcher answers on a line
* `Scenario.Resolved`: a block before and after it has been resolved

## Main results

* `Scenario.resolved_of_answers`: a block whose steps are answered
* `Document.resolve_all_answered`: a document whose steps are answered
-/

namespace FeatureDocs

/-- The matcher answers the line of a step with a match. -/
def Matcher.covers (matcher : Matcher) (s : Step) : Bool :=
  match matcher s.line with
  | .ok found => found.isMatched
  | .error _ => false

/-- What the matcher answers on a line; without an answer, nothing has been found. -/
def Matcher.answer (matcher : Matcher) (line : String) : StepMatch :=
  (matcher line).toOption.getD .unmatched

/-- A matcher that decides on all steps answers them. -/
theorem Matcher.answers_of_forall {matcher : Matcher} {steps : List Step}
    (h : ∀ s ∈ steps, ∃ found, matcher s.line = .ok found) :
    matcher.Answers steps matcher.answer := by
  intro s hs
  obtain ⟨found, hfound⟩ := h s hs
  rw [answer, hfound]
  rfl

/-- A block before and after all its steps have been answered. -/
structure Scenario.Resolved (matcher : Matcher) (addTags : Bool) (s s' : Scenario) : Prop where
  /-- Nothing differs but the steps, the tags and the flag. -/
  rest_eq : { s' with steps := s.steps, tags := s.tags, implemented := s.implemented } = s
  implemented_eq : s'.implemented = s.steps.all matcher.covers
  tags_eq : s'.tags =
    s.tags ++ if addTags then [statusTag (s.steps.all matcher.covers)] else []
  length_steps : s'.steps.length = s.steps.length
  /-- A step has its answer and the tag of all steps up to it, and nothing else differs. -/
  step : ∀ (i : Nat) (step : Step), s.steps[i]? = some step →
    ∃ found, matcher step.line = .ok found ∧ s'.steps[i]? = some { step with
      implementation := some found
      tags := step.tags ++
        if addTags then [statusTag ((s.steps.take (i + 1)).all matcher.covers)] else [] }
  /-- The tags of the steps that match without a gap come first. -/
  blocks : addTags = true → ∃ m n, m + n = s.steps.length ∧
    s'.steps.map Step.tags = List.zipWith (fun own tag => own ++ [tag]) (s.steps.map Step.tags)
      (List.replicate m "Implemented" ++ List.replicate n "Not Implemented")

variable {matcher : Matcher} {found : String → StepMatch}

theorem Matcher.Answers.covers_eq {steps : List Step} (h : matcher.Answers steps found) {s : Step}
    (hs : s ∈ steps) : matcher.covers s = (s.matchedBy found).isMatched := by
  rw [covers, h s hs, Step.isMatched_matchedBy]

theorem Matcher.Answers.all_covers {steps : List Step} (h : matcher.Answers steps found) :
    steps.all matcher.covers = (steps.map (Step.matchedBy found)).all Step.isMatched := by
  rw [List.all_map, Bool.eq_iff_iff, List.all_eq_true, List.all_eq_true]
  exact forall₂_congr fun s hs => by rw [h.covers_eq hs, Function.comp_apply]

theorem Matcher.Answers.take {steps : List Step} (h : matcher.Answers steps found) (n : Nat) :
    matcher.Answers (steps.take n) found :=
  fun s hs => h s (List.mem_of_mem_take hs)

namespace Scenario

/-! ## The tags of steps -/

theorem length_tagSteps (soFar : Bool) (steps : List Step) :
    (tagSteps soFar steps).length = steps.length := by
  induction steps generalizing soFar with
  | nil => rfl
  | cons step steps ih => rw [tagSteps, List.length_cons, List.length_cons, ih]

/-- The tag of a step tells of all steps up to it. -/
theorem getElem?_tagSteps (soFar : Bool) (steps : List Step) (i : Nat) :
    (tagSteps soFar steps)[i]? = steps[i]?.map fun step =>
      { step with
        tags := step.tags ++ [statusTag (soFar && (steps.take (i + 1)).all Step.isMatched)] } := by
  induction steps generalizing soFar i with
  | nil => rfl
  | cons step steps ih =>
    cases i with
    | zero => simp [tagSteps]
    | succ i => simp [tagSteps, ih, Bool.and_assoc]

/-- Behind a step without a match no other tag occurs. -/
theorem tags_tagSteps_false (steps : List Step) :
    (tagSteps false steps).map Step.tags =
      List.zipWith (fun own tag => own ++ [tag]) (steps.map Step.tags)
        (List.replicate steps.length (statusTag false)) := by
  induction steps with
  | nil => rfl
  | cons step steps ih =>
    rw [tagSteps, List.map_cons, Bool.false_and, ih]
    rfl

/-- The tags of steps change at most once. -/
theorem exists_blocks_tagSteps (steps : List Step) :
    ∃ m n, m + n = steps.length ∧ (tagSteps true steps).map Step.tags =
      List.zipWith (fun own tag => own ++ [tag]) (steps.map Step.tags)
        (List.replicate m (statusTag true) ++ List.replicate n (statusTag false)) := by
  induction steps with
  | nil => exact ⟨0, 0, rfl, rfl⟩
  | cons step steps ih =>
    rw [tagSteps, List.map_cons, Bool.true_and]
    cases step.isMatched with
    | true =>
      obtain ⟨m, n, hlength, htags⟩ := ih
      refine ⟨m + 1, n, by rw [List.length_cons]; omega, ?_⟩
      rw [htags]
      rfl
    | false =>
      refine ⟨0, steps.length + 1, by rw [List.length_cons]; omega, ?_⟩
      rw [tags_tagSteps_false]
      rfl

/-! ## Blocks -/

/-- **A block whose steps are answered.** -/
theorem resolved_of_answers {s : Scenario} (h : matcher.Answers s.steps found) (addTags : Bool) :
    s.Resolved matcher addTags (s.matchedBy found addTags) := by
  have hall : s.coveredBy found = s.steps.all matcher.covers := by
    rw [h.all_covers, List.all_map]
    rfl
  have hstep : ∀ (i : Nat) (step : Step), s.steps[i]? = some step →
      matcher step.line = .ok (found step.line) :=
    fun i step hi => h step (List.mem_of_getElem? hi)
  cases addTags with
  | false =>
    refine ⟨rfl, hall, (List.append_nil _).symm, List.length_map _, fun i step hi => ?_, by simp⟩
    refine ⟨_, hstep i step hi, ?_⟩
    change (s.steps.map (Step.matchedBy found))[i]? = _
    rw [List.getElem?_map, hi, if_neg Bool.false_ne_true, List.append_nil]
    rfl
  | true =>
    refine ⟨rfl, hall, by rw [← hall]; rfl, ?_, fun i step hi => ?_, fun _ => ?_⟩
    · exact (length_tagSteps true _).trans (List.length_map _)
    · refine ⟨_, hstep i step hi, ?_⟩
      change (tagSteps true (s.steps.map (Step.matchedBy found)))[i]? = _
      -- The steps up to this one are answered as all are.
      rw [getElem?_tagSteps, List.getElem?_map, hi, ← List.map_take, (h.take (i + 1)).all_covers]
      rfl
    · obtain ⟨m, n, hlength, htags⟩ := exists_blocks_tagSteps (s.steps.map (Step.matchedBy found))
      rw [List.length_map] at hlength
      rw [List.map_map] at htags
      exact ⟨m, n, hlength, htags⟩

end Scenario

/-- **A document whose steps are answered is resolved as a whole.**

Its flag is returned, and it tells whether all steps of all blocks match. Every block is resolved,
also behind one that is not implemented: its steps have their answers, whatever was recorded before,
and its flag tells whether all of them are matches. Nothing else differs but the synthetic tags, if
they are wanted: one for each block and one for each step, which tells of all steps up to it. -/
theorem Document.resolve_all_answered {matcher : Matcher} {d : Document}
    (h : ∀ s ∈ d.steps, ∃ found, matcher s.line = .ok found) (addTags : Bool) :
    ∃ d', d.resolve matcher addTags = ⟨.ok (d.steps.all matcher.covers), d'⟩ ∧
      { d' with children := d.children, implemented := d.implemented } = d ∧
      d'.implemented = d.steps.all matcher.covers ∧
      List.Forall₂ (Scenario.Resolved matcher addTags) d.children d'.children := by
  have hanswers := Matcher.answers_of_forall h
  have hchildren : ∀ c ∈ d.children, matcher.Answers c.steps matcher.answer := fun c hc s hs =>
    hanswers s (List.mem_flatMap.mpr ⟨c, hc, hs⟩)
  have hcovered : d.coveredBy matcher.answer = d.steps.all matcher.covers := by
    rw [hanswers.all_covers, List.all_map, steps, List.all_flatMap]
    rfl
  refine ⟨d.matchedBy matcher.answer addTags, ?_, rfl, hcovered, ?_⟩
  · rw [resolve_of_answers hchildren, hcovered]
  · change List.Forall₂ _ d.children (d.children.map _)
    rw [List.forall₂_map_right_iff, List.forall₂_same]
    exact fun c hc => Scenario.resolved_of_answers (hchildren c hc) addTags

/-- A step with a tag and an answer of another step. -/
def staleStep (text : String) : Step where
  keyword := "Given "
  text
  argument := none
  implementation := some (StandIn.knownLine "Given x")
  tags := ["own"]

/-- A block with stale steps and a stale flag. -/
def staleBlock (texts : List String) : Scenario where
  kind := .scenario
  keyword := "Scenario"
  name := "stale"
  description := ""
  rule := none
  tags := ["own"]
  featureTags := []
  featureName := ""
  steps := texts.map staleStep
  examples := []
  implemented := texts.length = 3

/-- A document of stale blocks with steps of the given texts. -/
def staleDocument (blocks : List (List String)) : Document where
  keyword := "Feature"
  name := "stale"
  description := ""
  tags := []
  children := blocks.map staleBlock
  implemented := true

/-- One step of the first block does not match; the second block is resolved all the same. -/
theorem Document.resolve_staleDocument :
    let d := staleDocument [["a", "b", "a"], ["a"]]
    let matcher := StandIn.knowing ["Given a"]
    (∀ s ∈ d.steps, ∃ found, matcher s.line = .ok found) ∧
      ∃ d', d.resolve matcher true = ⟨.ok false, d'⟩ ∧ d'.implemented = false ∧
        List.Forall₂ (Scenario.Resolved matcher true) d.children d'.children ∧
        d'.children.map (fun c => (c.tags, c.steps.map Step.tags)) = [
          (["own", "Not Implemented"],
            [["own", "Implemented"], ["own", "Not Implemented"], ["own", "Not Implemented"]]),
          (["own", "Implemented"], [["own", "Implemented"]])] := by
  intro d matcher
  have hanswered : ∀ s ∈ d.steps, ∃ found, matcher s.line = .ok found := fun _ _ => ⟨_, rfl⟩
  obtain ⟨d', hresolve, -, himplemented, hchildren⟩ := resolve_all_answered hanswered true
  have hcovers : d.steps.all matcher.covers = false := by decide
  rw [hcovers] at hresolve himplemented
  refine ⟨hanswered, d', hresolve, himplemented, hchildren, ?_⟩
  obtain rfl : (d.resolve matcher true).subject = d' := congrArg Progressed.subject hresolve
  decide

end FeatureDocs
