import FeatureDocs.Path

/-!
# Documents

A document is a feature as it is documented: one list of backgrounds, scenarios and outlines, in
which every step knows whether it is implemented, and by what.

## Main definitions

* `Document`, `Scenario`, `Step`, `Examples`, `StepArgument`: documents and their parts
* `StepMatch`, `FoundDefinition`: what matching a step line has found
* `Step.line`, `Scenario.allTags`: the line that is matched; the tags that count
-/

namespace FeatureDocs

/-- Where a matched step is implemented. -/
structure FoundDefinition where
  /-- The keyword of the definition. -/
  keyword : String
  /-- The pattern of the definition. -/
  pattern : String
  /-- The pattern was derived from the name of the function. -/
  patternInferred : Bool
  /-- The function with the modules around it. -/
  function : String
  /-- The file that holds the function. -/
  sourcePath : Path
  /-- The line of the function, from one. -/
  line : Nat
  /-- The values of the placeholders, in order. -/
  captures : List String
  deriving DecidableEq, Repr

/-- What matching a step line has found. The flag decides; a matcher may set it without naming the
definition. -/
structure StepMatch where
  /-- Some definition matches. -/
  isMatched : Bool
  /-- The definition that matches, if it is named. -/
  definition? : Option FoundDefinition
  deriving DecidableEq, Repr

namespace StepMatch

/-- No definition matches. -/
def unmatched : StepMatch := ⟨false, none⟩

/-- A definition matches. -/
def matched (d : FoundDefinition) : StepMatch := ⟨true, some d⟩

@[simp] theorem isMatched_unmatched : unmatched.isMatched = false := rfl

@[simp] theorem isMatched_matched (d : FoundDefinition) : (matched d).isMatched = true := rfl

@[simp] theorem definition?_unmatched : unmatched.definition? = none := rfl

theorem matched_inj {d e : FoundDefinition} : matched d = matched e ↔ d = e := by
  simp [matched]

end StepMatch

/-- What stands below a step. -/
inductive StepArgument where
  | docString (content : String)
  | dataTable (rows : List (List String))
  deriving DecidableEq, Repr

/-- A step of a document. -/
structure Step where
  /-- The keyword and one blank behind it. -/
  keyword : String
  text : String
  argument : Option StepArgument
  /-- What matching the step has found, once it has been matched. -/
  implementation : Option StepMatch
  /-- The tags that tell whether the step is implemented. -/
  tags : List String
  deriving DecidableEq, Repr

namespace Step

/-- The line that is matched: keyword and text as they stand. -/
def line (step : Step) : String := step.keyword ++ step.text

/-- The step has been matched, with success. -/
def isMatched (step : Step) : Bool := step.implementation.any StepMatch.isMatched

end Step

/-- The examples of a scenario outline, the header first. -/
structure Examples where
  keyword : String
  tags : List String
  rows : List (List String)
  deriving DecidableEq, Repr

/-- The kinds of block in a document. -/
inductive ScenarioKind where
  | background
  | scenario
  | scenarioOutline
  deriving DecidableEq, Repr

/-- A background, a scenario or a scenario outline. -/
structure Scenario where
  kind : ScenarioKind
  keyword : String
  name : String
  description : String
  /-- The name of the rule around the block. -/
  rule : Option String
  tags : List String
  /-- The tags of the feature. -/
  featureTags : List String
  /-- The name of the feature. -/
  featureName : String
  steps : List Step
  examples : List Examples
  /-- Every step is implemented. -/
  implemented : Bool
  deriving DecidableEq, Repr

/-- The tags that count for a block: its own, then those of its feature. -/
def Scenario.allTags (s : Scenario) : List String := s.tags ++ s.featureTags

/-- A documented feature. -/
structure Document where
  keyword : String
  name : String
  description : String
  tags : List String
  children : List Scenario
  /-- Every child is implemented. -/
  implemented : Bool
  deriving DecidableEq, Repr

end FeatureDocs
