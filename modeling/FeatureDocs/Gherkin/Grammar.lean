import FeatureDocs.Gherkin.Argument
import FeatureDocs.Gherkin.Dialect

/-!
# The grammar of feature files

The readers for the blocks of a feature file, from the inside out. Each takes the dialect whose
keywords count; a comment in the first lines that names a language chooses the dialect of the
whole file, and English is the dialect of a file that names none.

## Main definitions

* `Reader.steps`, `Reader.background`, `Reader.scenario`, `Reader.rule`, `Reader.feature`: the
  blocks
* `Feature.parse?`: the reader of a whole file
-/

namespace FeatureDocs.Gherkin

namespace Reader

/-- Reads the rest of a line as a name, which may be empty. -/
def blockName : Reader String := do
  skip skipBlanks
  let cs ← optional line
  return String.ofList (Text.trimEnd (cs.getD []))

/-- Reads a line of a description. A tag or one of the keywords that may follow ends the
description. -/
def descriptionLine (stops : List String) : Reader (List Char) := fun s =>
  let s := skipBlanks s
  if (word? "@" s).isSome || (keyword? stops s).isSome then .reject
  else (do
    let cs ← line
    endOfLine
    return cs : Reader (List Char)) s

/-- Reads a description; one of blank characters alone counts as none. -/
def description (stops : List String) : Reader (Option String) := do
  let ls ← separated skipBlanks (descriptionLine stops)
  skip skipLayout
  let text := List.intercalate ['\n'] ls
  return if Text.allBlank text then none else some (String.ofList text)

/-- Reads a tag without its `@`. -/
def tag : Reader String := do
  word "@"
  fun s =>
    let isTagChar := fun c => !Text.isBlank c && c != '@'
    match s.takeWhile isTagChar with
    | [] => .reject
    | cs => .ok (String.ofList cs) (s.dropWhile isTagChar)

/-- Reads the tags in front of a block, of which there may be none. -/
def tags : Reader (List String) := do
  let ts ← separated skipLayout tag
  skip skipBlanks
  skip skipLines
  return ts

/-- Reads the text of a step, behind its keyword, and what stands below it. -/
def stepBody (keyword : String) : Reader Step := do
  skip skipBlanks
  let text ← line
  skip skipBlanks
  endOfLine
  skip skipBlanks
  let docString ← optional docString
  let table ← optional table
  return {
    keyword
    text := String.ofList (Text.trimEnd text)
    docString
    table }

/-- Reads a step that has a meaning by itself. -/
def primaryStep (d : Dialect) : Reader Step :=
  orElse (keyword d.given >>= stepBody)
    (orElse (keyword d.when >>= stepBody) (keyword d.outcome >>= stepBody))

/-- Reads a step that goes on from the step before. -/
def continuedStep (d : Dialect) : Reader Step :=
  orElse (keyword d.conjunction >>= stepBody) (keyword d.contrast >>= stepBody)

/-- Reads a step; `anchored` tells whether a step with a meaning by itself has come before, for
without one nothing can be continued. The answer tells the same of the step after. -/
def step (d : Dialect) (anchored : Bool) : Reader (Step × Bool) :=
  orElse ((fun s => (s, true)) <$> primaryStep d)
    (if anchored then (fun s => (s, true)) <$> continuedStep d else reject)

/-- Reads the steps behind the first. -/
def stepsAfter (d : Dialect) (anchored : Bool) (s : List Char) : Outcome (List Step) :=
  match step d anchored (skipBlanks s) with
  | .ok (a, anchored) r =>
    if r.length < s.length then
      match stepsAfter d anchored r with
      | .ok as t => .ok (a :: as) t
      | .reject => .reject
      | .abort => .abort
    else .ok [] s
  | .reject => .ok [] s
  | .abort => .abort
termination_by s.length

/-- Reads the steps of a block. -/
def steps (d : Dialect) : Reader (List Step) := fun s =>
  match step d false s with
  | .ok (a, anchored) r =>
    match stepsAfter d anchored r with
    | .ok as t => .ok (a :: as) t
    | .reject => .reject
    | .abort => .abort
  | .reject => .ok [] s
  | .abort => .abort

/-- Reads a background. -/
def background (d : Dialect) : Reader Background := do
  skip skipComments
  skip skipBlanks
  let keyword ← keyword d.background
  word ":"
  let name ← blockName
  endOfLine
  let description ← description d.afterScenario
  let steps ← steps d
  return { keyword, name, description, steps }

/-- Reads examples; their name and description are not kept. -/
def examples (d : Dialect) : Reader Examples := do
  skip skipComments
  skip skipBlanks
  let tags ← tags
  skip skipBlanks
  let keyword ← keyword d.examples
  word ":"
  let _ ← blockName
  endOfLine
  let _ ← description d.afterExamples
  let table ← optional table
  return { keyword, tags, table }

/-- Reads a scenario whose keyword is one of the given spellings. -/
def scenarioOf (d : Dialect) (spellings : List String) : Reader Scenario := do
  skip skipComments
  skip skipBlanks
  let tags ← tags
  skip skipBlanks
  let keyword ← keyword spellings
  word ":"
  let name ← blockName
  skip skipBlanks
  endOfLine
  let description ← description d.afterScenario
  let steps ← steps d
  let examples ← many (examples d)
  return { keyword, name, description, tags, steps, examples }

/-- Reads a scenario or a scenario outline. -/
def scenario (d : Dialect) : Reader Scenario :=
  orElse (scenarioOf d d.scenario) (scenarioOf d d.scenarioOutline)

/-- Reads the scenarios of a feature or rule. -/
def scenarios (d : Dialect) : Reader (List Scenario) := do
  skip skipBlanks
  separated skipBlanks (scenario d)

/-- Reads a rule; its description is not kept. -/
def rule (d : Dialect) : Reader Rule := do
  skip skipBlanks
  let tags ← tags
  skip skipBlanks
  let keyword ← keyword d.rule
  word ":"
  let name ← blockName
  skip skipBlanks
  endOfLine
  let _ ← description d.afterRule
  let background ← optional (background d)
  skip skipLines
  let scenarios ← scenarios d
  skip skipLines
  return { keyword, name, tags, background, scenarios }

/-- Reads the comment that names the language; an unknown language aborts. -/
def language : Reader Dialect := do
  skip skipBlankLines
  word "#"
  skip skipBlanks
  word "language"
  skip skipBlanks
  word ":"
  skip skipBlanks
  let code ← line
  skip? lineEnd?
  match Dialect.ofCode? (String.ofList code) with
  | some d => return d
  | none => abort

/-- Reads a feature. -/
def feature : Reader Feature := do
  skip skipBlanks
  let d := (← optional language).getD .english
  skip skipLines
  let tags ← tags
  let keyword ← keyword d.feature
  word ":"
  let name ← blockName
  skip skipBlanks
  endOfLine
  let description ← description d.afterFeature
  let background ← optional (background d)
  skip skipLines
  let scenarios ← scenarios d
  skip skipLines
  skip skipBlanks
  let rules ← separated skipBlanks (rule d)
  skip skipLines
  return { keyword, name, description, tags, background, scenarios, rules }

end Reader

/-- Reads a whole feature file. -/
def Feature.parse? (source : String) : Option Feature :=
  match Reader.feature source.toList with
  | .ok f [] => some f
  | _ => none

end FeatureDocs.Gherkin
