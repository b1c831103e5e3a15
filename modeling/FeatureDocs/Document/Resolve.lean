import FeatureDocs.Document.Basic

/-!
# The implementation of steps

Every step line is submitted to a matcher. A block is implemented when all its steps match, and a
document when all its blocks are. On request, tags tell so: a block has one tag, and a step one
for all the steps up to it.

A matcher may fail. The passes then answer with the error and with the state in which they left
their subject: what came before the failing step has been resolved, and what comes after has not
been touched.

## Main definitions

* `Matcher`: matchers
* `Progressed`: a result together with the state of its subject
* `Scenario.resolve`, `Document.resolve`: the passes
-/

namespace FeatureDocs

/-- A matcher could not decide on a line. -/
structure MatcherError where
  line : String
  message : String
  deriving DecidableEq, Repr

/-- The text of the error. -/
def MatcherError.text (e : MatcherError) : String :=
  "step matcher failed for '" ++ e.line ++ "': " ++ e.message

/-- A matcher decides on step lines. -/
abbrev Matcher := String → Except MatcherError StepMatch

/-- The tag that tells whether something is implemented. -/
def statusTag (implemented : Bool) : String :=
  if implemented then "Implemented" else "Not Implemented"

/-- The result of a pass over a subject, and the state in which the pass left it. -/
structure Progressed (α : Type) where
  result : Except MatcherError Bool
  subject : α
  deriving Repr

/-- Matches a step. -/
def Step.resolve (matcher : Matcher) (step : Step) : Except MatcherError StepMatch :=
  matcher step.line

namespace Scenario

/-- Records what the matcher says of each step, up to the first on which it fails; the error of
that one, if there is one, comes along. -/
def matchSteps (matcher : Matcher) : List Step → Option MatcherError × List Step
  | [] => (none, [])
  | step :: steps =>
    match step.resolve matcher with
    | .error e => (some e, step :: steps)
    | .ok found =>
      let (error, rest) := matchSteps matcher steps
      (error, { step with implementation := some found } :: rest)

/-- Tags each step with the flag of all steps up to it; `soFar` is the flag of those before. -/
def tagSteps (soFar : Bool) : List Step → List Step
  | [] => []
  | step :: steps =>
    let soFar := soFar && step.isMatched
    { step with tags := step.tags ++ [statusTag soFar] } :: tagSteps soFar steps

/-- The block with its synthetic tags. -/
def addStatusTags (s : Scenario) : Scenario :=
  { s with
    steps := tagSteps true s.steps
    tags := s.tags ++ [statusTag s.implemented] }

/-- Matches every step of a block and sets its flag, then adds the synthetic tags if they are
wanted. -/
def resolve (matcher : Matcher) (addTags : Bool) (s : Scenario) : Progressed Scenario :=
  match matchSteps matcher s.steps with
  | (some e, steps) => ⟨.error e, { s with steps }⟩
  | (none, steps) =>
    let implemented := steps.all Step.isMatched
    let s := { s with steps, implemented }
    ⟨.ok implemented, if addTags then s.addStatusTags else s⟩

end Scenario

namespace Document

/-- Resolves blocks in order, up to the first on which the matcher fails. -/
def resolveChildren (matcher : Matcher) (addTags : Bool) :
    List Scenario → Progressed (List Scenario)
  | [] => ⟨.ok true, []⟩
  | child :: children =>
    let first := child.resolve matcher addTags
    match first.result with
    | .error e => ⟨.error e, first.subject :: children⟩
    | .ok implemented =>
      let rest := resolveChildren matcher addTags children
      ⟨rest.result.map (implemented && ·), first.subject :: rest.subject⟩

/-- Resolves every block of a document and sets its flag. -/
def resolve (matcher : Matcher) (addTags : Bool) (d : Document) : Progressed Document :=
  let children := resolveChildren matcher addTags d.children
  match children.result with
  | .error e => ⟨.error e, { d with children := children.subject }⟩
  | .ok implemented => ⟨.ok implemented, { d with children := children.subject, implemented }⟩

end Document

end FeatureDocs
