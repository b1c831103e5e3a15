/-!
# Features

What a feature file says, in the terms of its own grammar: a feature has a background, scenarios
and rules; a rule has a background and scenarios of its own.
-/

namespace FeatureDocs.Gherkin

/-- A table, row by row; every row has the width of the first. -/
abbrev Table := List (List String)

/-- A step: its keyword as written, its text, and what stands below it. -/
structure Step where
  keyword : String
  text : String
  docString : Option String
  table : Option Table
  deriving DecidableEq, Repr

/-- The steps that every scenario of a feature or rule starts with. -/
structure Background where
  keyword : String
  name : String
  description : Option String
  steps : List Step
  deriving DecidableEq, Repr

/-- Examples of a scenario outline. -/
structure Examples where
  keyword : String
  tags : List String
  table : Option Table
  deriving DecidableEq, Repr

/-- A scenario; with examples it is an outline. -/
structure Scenario where
  keyword : String
  name : String
  description : Option String
  tags : List String
  steps : List Step
  examples : List Examples
  deriving DecidableEq, Repr

/-- A rule and the scenarios that illustrate it. -/
structure Rule where
  keyword : String
  name : String
  tags : List String
  background : Option Background
  scenarios : List Scenario
  deriving DecidableEq, Repr

/-- A feature. -/
structure Feature where
  keyword : String
  name : String
  description : Option String
  tags : List String
  background : Option Background
  scenarios : List Scenario
  rules : List Rule
  deriving DecidableEq, Repr

end FeatureDocs.Gherkin
