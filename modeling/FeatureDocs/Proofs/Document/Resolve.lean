import FeatureDocs.Document.Annotate
import FeatureDocs.Document.Resolve
import Mathlib.Data.List.Basic

/-!
# Failures of the matcher

Resolving a document submits its steps in order, and ends with the error of the first step on which
the matcher fails. If there is none, every block is resolved for itself. The passes before do not
touch what is submitted.

## Main definitions

* `Matcher.FailsOn`: a matcher fails on steps
* `Document.steps`: the steps of a document in order

## Main results

* `Document.resolve_eq_error_iff`: a document is refused with the first failure on its steps
-/

namespace FeatureDocs

/-- The matcher fails on steps with the error of the first that it cannot decide. -/
def Matcher.FailsOn (matcher : Matcher) (steps : List Step) (e : MatcherError) : Prop :=
  ∃ before step after, steps = before ++ step :: after ∧ matcher step.line = .error e ∧
    ∀ s ∈ before, ∃ found, matcher s.line = .ok found

/-- The error of the first step that a matcher cannot decide. -/
def Matcher.failure? (matcher : Matcher) (steps : List Step) : Option MatcherError :=
  steps.findSome? fun step =>
    match matcher step.line with
    | .error e => some e
    | .ok _ => none

theorem Matcher.failsOn_iff {matcher : Matcher} {steps : List Step} {e : MatcherError} :
    matcher.FailsOn steps e ↔ matcher.failure? steps = some e := by
  rw [failure?, List.findSome?_eq_some_iff]
  constructor
  · rintro ⟨before, step, after, rfl, he, hbefore⟩
    refine ⟨before, step, after, rfl, by rw [he], fun s hs => ?_⟩
    obtain ⟨found, hfound⟩ := hbefore s hs
    rw [hfound]
  · rintro ⟨before, step, after, rfl, he, hbefore⟩
    refine ⟨before, step, after, rfl, ?_, fun s hs => ?_⟩
    · cases h : matcher step.line with
      | error cause =>
        rw [h] at he
        rw [Option.some.inj he]
      | ok found => simp [h] at he
    · cases h : matcher s.line with
      | error cause => simpa [h] using hbefore s hs
      | ok found => exact ⟨found, rfl⟩

theorem Matcher.failure?_append (matcher : Matcher) (s t : List Step) :
    matcher.failure? (s ++ t) = (matcher.failure? s).or (matcher.failure? t) :=
  List.findSome?_append

/-- Steps with the same lines fail alike. -/
theorem Matcher.failure?_map {matcher : Matcher} {f : Step → Step} (hf : ∀ s, (f s).line = s.line)
    (steps : List Step) : matcher.failure? (steps.map f) = matcher.failure? steps := by
  simp only [failure?, List.findSome?_map, Function.comp_def, hf]

namespace Scenario

theorem matchSteps_fst (matcher : Matcher) (steps : List Step) :
    (matchSteps matcher steps).1 = matcher.failure? steps := by
  induction steps with
  | nil => rfl
  | cons step steps ih =>
    rw [Matcher.failure?, List.findSome?_cons, matchSteps, Step.resolve]
    cases matcher step.line with
    | error e => rfl
    | ok found => exact ih

theorem resolve_result (matcher : Matcher) (addTags : Bool) (s : Scenario) :
    (s.resolve matcher addTags).result =
      match matcher.failure? s.steps with
      | some e => .error e
      | none => .ok ((matchSteps matcher s.steps).2.all Step.isMatched) := by
  rw [resolve, ← matchSteps_fst]
  rcases matchSteps matcher s.steps with ⟨_ | e, steps⟩ <;> rfl

end Scenario

namespace Document

open Scenario (matchSteps)

/-- The steps of a document in order. -/
def steps (d : Document) : List Step := d.children.flatMap Scenario.steps

/-- Blocks are resolved in order: the first failure is that of the whole, and without one each
block is resolved for itself. -/
theorem resolveChildren_cases (matcher : Matcher) (addTags : Bool) (children : List Scenario) :
    (∃ e, matcher.failure? (children.flatMap Scenario.steps) = some e ∧
      (resolveChildren matcher addTags children).result = .error e) ∨
    matcher.failure? (children.flatMap Scenario.steps) = none ∧
      ∃ implemented, resolveChildren matcher addTags children =
        ⟨.ok implemented, children.map fun c => (c.resolve matcher addTags).subject⟩ := by
  induction children with
  | nil => exact Or.inr ⟨rfl, true, rfl⟩
  | cons child children ih =>
    rw [List.flatMap_cons, Matcher.failure?_append, resolveChildren, Scenario.resolve_result]
    -- A failure in the first block counts before all others.
    cases matcher.failure? child.steps with
    | some e => exact Or.inl ⟨e, rfl, rfl⟩
    | none =>
      rcases ih with ⟨e, he, hresult⟩ | ⟨hnone, implemented, hchildren⟩
      · exact Or.inl ⟨e, he, by simp [hresult, Except.map]⟩
      · refine Or.inr
          ⟨hnone, (matchSteps matcher child.steps).2.all Step.isMatched && implemented, ?_⟩
        simp only [hchildren, Except.map, List.map_cons]

/-- **A document is refused with the first failure on its steps.** -/
theorem resolve_eq_error_iff (matcher : Matcher) (addTags : Bool) {d : Document}
    {e : MatcherError} :
    (d.resolve matcher addTags).result = .error e ↔ matcher.FailsOn d.steps e := by
  rw [Matcher.failsOn_iff, resolve, steps]
  rcases resolveChildren_cases matcher addTags d.children with
    ⟨e', he, hresult⟩ | ⟨hnone, implemented, hchildren⟩
  · simp [he, hresult]
  · simp [hnone, hchildren]

/-- A document that is not refused has each of its blocks resolved for itself, and none of them is
refused. -/
theorem resolve_children {matcher : Matcher} {addTags implemented : Bool} {d : Document}
    (h : (d.resolve matcher addTags).result = .ok implemented) :
    (d.resolve matcher addTags).subject.children =
        d.children.map (fun c => (c.resolve matcher addTags).subject) ∧
      ∀ c ∈ d.children, ∃ own, (c.resolve matcher addTags).result = .ok own := by
  rw [resolve] at h ⊢
  rcases resolveChildren_cases matcher addTags d.children with
    ⟨e', -, hresult⟩ | ⟨hnone, implemented', hchildren⟩
  · simp [hresult] at h
  · refine ⟨by simp [hchildren], fun c hc => ?_⟩
    -- No step of the document fails, so none of the block does.
    have hown : matcher.failure? c.steps = none := by
      rw [Matcher.failure?, List.findSome?_eq_none_iff] at hnone ⊢
      exact fun s hs => hnone s (List.mem_flatMap.mpr ⟨c, hc, hs⟩)
    exact ⟨_, by rw [Scenario.resolve_result, hown]⟩

/-! ## The passes before -/

theorem failsOn_prepared {matcher : Matcher} {d : Document} {e : MatcherError} :
    matcher.FailsOn d.bareTags.escapeArguments.steps e ↔ matcher.FailsOn d.steps e := by
  -- Only the arguments of steps change, which are not part of their lines.
  have hsteps : d.bareTags.escapeArguments.steps = d.steps.map Step.escapeArgument := by
    simp only [steps, escapeArguments, bareTags, List.flatMap_map, List.map_flatMap]
    rfl
  have hline : ∀ s : Step, s.escapeArgument.line = s.line := fun _ => rfl
  rw [Matcher.failsOn_iff, Matcher.failsOn_iff, hsteps, Matcher.failure?_map hline]

end Document

end FeatureDocs
