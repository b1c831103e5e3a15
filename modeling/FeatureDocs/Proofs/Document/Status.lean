import FeatureDocs.Document.Resolve
import FeatureDocs.Proofs.Association

/-!
# The implementation status of a document

Where a matcher answers all steps, a document is resolved step by step, and its flags tell which
of the answers are matches. So the flags of two runs compare as the answers do: more matches make
more blocks implemented, and answers that match the same lines leave the same document, but for the
definitions that they report.

## Main definitions

* `Matcher.Answers`: a matcher answers steps
* `Step.matchedBy`, `Scenario.matchedBy`, `Document.matchedBy`: what resolving makes of each
* `Step.SameStatus`, `Scenario.SameStatus`, `Document.SameStatus`: equal but for the definitions
  that are reported

## Main results

* `Document.resolve_of_answers`: a document is resolved where its steps are answered
* `Document.coveredBy_mono`: the flags are monotone in the matches
* `Document.sameStatus_matchedBy`: which lines match decides on all but the reported definitions
-/

namespace FeatureDocs

variable {matcher : Matcher} {found found' : String → StepMatch}

/-- The matcher answers steps, as `found` says of their lines. -/
def Matcher.Answers (matcher : Matcher) (steps : List Step) (found : String → StepMatch) : Prop :=
  ∀ s ∈ steps, matcher s.line = .ok (found s.line)

/-! ## What resolving makes of a document -/

/-- The step with what matching it has found. -/
def Step.matchedBy (found : String → StepMatch) (s : Step) : Step :=
  { s with implementation := some (found s.line) }

@[simp] theorem Step.isMatched_matchedBy (s : Step) :
    (s.matchedBy found).isMatched = (found s.line).isMatched := rfl

namespace Scenario

/-- All steps of the block match. -/
def coveredBy (found : String → StepMatch) (s : Scenario) : Bool :=
  s.steps.all fun step => (found step.line).isMatched

/-- The block with its steps matched and its flag set, and with the synthetic tags if they are
wanted. -/
def matchedBy (found : String → StepMatch) (addTags : Bool) (s : Scenario) : Scenario :=
  let s := { s with
    steps := s.steps.map (Step.matchedBy found)
    implemented := s.coveredBy found }
  if addTags then s.addStatusTags else s

theorem matchSteps_of_answers {steps : List Step} (h : matcher.Answers steps found) :
    matchSteps matcher steps = (none, steps.map (Step.matchedBy found)) := by
  induction steps with
  | nil => rfl
  | cons step steps ih =>
    have hstep : step.resolve matcher = .ok (found step.line) := h step List.mem_cons_self
    rw [matchSteps, hstep]
    simp only [ih fun s hs => h s (List.mem_cons_of_mem _ hs)]
    rfl

/-- A block is resolved where its steps are answered. -/
theorem resolve_of_answers {s : Scenario} (h : matcher.Answers s.steps found) (addTags : Bool) :
    s.resolve matcher addTags = ⟨.ok (s.coveredBy found), s.matchedBy found addTags⟩ := by
  have hall : (s.steps.map (Step.matchedBy found)).all Step.isMatched = s.coveredBy found := by
    rw [List.all_map]
    rfl
  rw [resolve, matchSteps_of_answers h]
  simp only [hall]
  rfl

@[simp] theorem implemented_matchedBy (s : Scenario) (addTags : Bool) :
    (s.matchedBy found addTags).implemented = s.coveredBy found := by
  cases addTags <;> rfl

end Scenario

namespace Document

/-- All steps of all blocks match. -/
def coveredBy (found : String → StepMatch) (d : Document) : Bool :=
  d.children.all (Scenario.coveredBy found)

/-- The document with its blocks resolved and its flag set. -/
def matchedBy (found : String → StepMatch) (addTags : Bool) (d : Document) : Document :=
  { d with
    children := d.children.map (Scenario.matchedBy found addTags)
    implemented := d.coveredBy found }

theorem resolveChildren_of_answers {children : List Scenario}
    (h : ∀ c ∈ children, matcher.Answers c.steps found) (addTags : Bool) :
    resolveChildren matcher addTags children =
      ⟨.ok (children.all (Scenario.coveredBy found)),
        children.map (Scenario.matchedBy found addTags)⟩ := by
  induction children with
  | nil => rfl
  | cons child children ih =>
    rw [resolveChildren, Scenario.resolve_of_answers (h child List.mem_cons_self)]
    simp only [ih fun c hc => h c (List.mem_cons_of_mem _ hc)]
    rfl

/-- **A document is resolved where its steps are answered**: every step has its answer, and the
flags tell whether all answers are matches. -/
theorem resolve_of_answers {d : Document} (h : ∀ c ∈ d.children, matcher.Answers c.steps found)
    (addTags : Bool) :
    d.resolve matcher addTags = ⟨.ok (d.coveredBy found), d.matchedBy found addTags⟩ := by
  rw [resolve, resolveChildren_of_answers h]
  rfl

end Document

/-! ## More matches -/

section More

variable (hmore : ∀ line, (found line).isMatched = true → (found' line).isMatched = true)
include hmore

theorem Scenario.coveredBy_mono {s : Scenario} (h : s.coveredBy found = true) :
    s.coveredBy found' = true := by
  rw [coveredBy, List.all_eq_true] at h ⊢
  exact fun step hstep => hmore _ (h step hstep)

/-- **The flags are monotone in the matches.** -/
theorem Document.coveredBy_mono {d : Document} (h : d.coveredBy found = true) :
    d.coveredBy found' = true := by
  rw [coveredBy, List.all_eq_true] at h ⊢
  exact fun c hc => Scenario.coveredBy_mono hmore (h c hc)

/-- A block that is implemented stays so where more lines match. -/
theorem Document.implemented_children_mono (d : Document) (addTags : Bool) :
    List.Forall₂ (fun c c' : Scenario => c.implemented = true → c'.implemented = true)
      (d.matchedBy found addTags).children (d.matchedBy found' addTags).children := by
  refine forall₂_map_same fun c _ h => ?_
  rw [Scenario.implemented_matchedBy] at h ⊢
  exact Scenario.coveredBy_mono hmore h

end More

/-! ## The same matches -/

/-- The steps agree in all but the definitions that matching them has found. -/
structure Step.SameStatus (s s' : Step) : Prop where
  rest_eq : { s with implementation := none } = { s' with implementation := none }
  isMatched_eq : s.implementation.map StepMatch.isMatched =
    s'.implementation.map StepMatch.isMatched

/-- The blocks agree in all but the definitions that matching their steps has found. -/
structure Scenario.SameStatus (s s' : Scenario) : Prop where
  rest_eq : { s with steps := [] } = { s' with steps := [] }
  steps : List.Forall₂ Step.SameStatus s.steps s'.steps

/-- The documents agree in all but the definitions that matching their steps has found. -/
structure Document.SameStatus (d d' : Document) : Prop where
  rest_eq : { d with children := [] } = { d' with children := [] }
  children : List.Forall₂ Scenario.SameStatus d.children d'.children

section Same

variable (hsame : ∀ line, (found line).isMatched = (found' line).isMatched)
include hsame

theorem Step.sameStatus_matchedBy (s : Step) :
    (s.matchedBy found).SameStatus (s.matchedBy found') :=
  ⟨rfl, congrArg some (hsame s.line)⟩

omit hsame in
theorem Step.SameStatus.isMatched {s s' : Step} (h : s.SameStatus s') :
    s.isMatched = s'.isMatched := by
  have heq := h.isMatched_eq
  unfold Step.isMatched
  cases hs : s.implementation <;> cases hs' : s'.implementation <;> simp_all

omit hsame in
/-- The synthetic tags of steps do not tell definitions apart. -/
theorem Scenario.sameStatus_tagSteps {steps steps' : List Step}
    (h : List.Forall₂ Step.SameStatus steps steps') (soFar : Bool) :
    List.Forall₂ Step.SameStatus (tagSteps soFar steps) (tagSteps soFar steps') := by
  induction h generalizing soFar with
  | nil => exact .nil
  | @cons s s' steps steps' hs _ ih =>
    rw [tagSteps, tagSteps, hs.isMatched]
    refine .cons ⟨?_, hs.isMatched_eq⟩ (ih _)
    have hrest := hs.rest_eq
    simp only [Step.mk.injEq] at hrest ⊢
    simp [hrest]

theorem Scenario.coveredBy_congr (s : Scenario) : s.coveredBy found = s.coveredBy found' := by
  simp only [coveredBy, hsame]

theorem Document.coveredBy_congr (d : Document) : d.coveredBy found = d.coveredBy found' :=
  congrArg d.children.all (funext (Scenario.coveredBy_congr hsame))

theorem Scenario.sameStatus_matchedBy (s : Scenario) (addTags : Bool) :
    (s.matchedBy found addTags).SameStatus (s.matchedBy found' addTags) := by
  have hsteps : List.Forall₂ Step.SameStatus (s.steps.map (Step.matchedBy found))
      (s.steps.map (Step.matchedBy found')) :=
    forall₂_map_same fun step _ => Step.sameStatus_matchedBy hsame step
  unfold matchedBy
  rw [coveredBy_congr hsame]
  cases addTags with
  | false => exact ⟨rfl, hsteps⟩
  | true => exact ⟨rfl, sameStatus_tagSteps hsteps true⟩

/-- **Which lines match decides on all but the reported definitions.** -/
theorem Document.sameStatus_matchedBy (d : Document) (addTags : Bool) :
    (d.matchedBy found addTags).SameStatus (d.matchedBy found' addTags) where
  rest_eq := by simp only [matchedBy, coveredBy_congr hsame]
  children := forall₂_map_same fun c _ => c.sameStatus_matchedBy hsame addTags

end Same

end FeatureDocs
