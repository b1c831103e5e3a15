import FeatureDocs.Disk
import FeatureDocs.Document.Basic
import FeatureDocs.Gherkin.Feature
import FeatureDocs.Text.Blank

/-!
# The document of a feature

The blocks of a feature and of its rules become one list, in the order of the file; what stands in
a rule carries the name of the rule, and a scenario the tags of its rule behind its own.
Descriptions are Markdown and are rendered, each once. Which texts are features is for a grammar
to say, and what Markdown becomes for a renderer.

## Main definitions

* `Document.ofFeature`: the document of a feature
* `Document.renderDescriptions`: the document with its descriptions rendered
* `Grammar`, `Grammar.ofFeatures`: grammars, and the grammar of a reader of features
* `Document.read?`, `Document.ofFile`: the document of a text and of a file
-/

namespace FeatureDocs

/-- A step of the document; a doc string wins over a table, and one blank follows the keyword. -/
def Step.ofFeature (step : Gherkin.Step) : Step where
  keyword := step.keyword.trimBlankEnd ++ " "
  text := step.text
  argument :=
    match step.docString, step.table with
    | some content, _ => some (.docString content)
    | none, some rows => some (.dataTable rows)
    | none, none => none
  implementation := none
  tags := []

/-- The examples of the document; without a table they have no rows. -/
def Examples.ofFeature (e : Gherkin.Examples) : Examples where
  keyword := e.keyword
  tags := e.tags
  rows := e.table.getD []

namespace Scenario

/-- The block of a background. -/
def ofBackground (rule : Option String) (b : Gherkin.Background) : Scenario where
  kind := .background
  keyword := b.keyword
  name := b.name
  description := b.description.getD ""
  rule
  tags := []
  featureTags := []
  featureName := ""
  steps := b.steps.map Step.ofFeature
  examples := []
  implemented := false

/-- The block of a scenario, which is an outline if it has examples. -/
def ofScenario (rule : Option String) (ruleTags : List String) (s : Gherkin.Scenario) :
    Scenario where
  kind := if s.examples.isEmpty then .scenario else .scenarioOutline
  keyword := s.keyword
  name := s.name
  description := s.description.getD ""
  rule
  tags := s.tags ++ ruleTags
  featureTags := []
  featureName := ""
  steps := s.steps.map Step.ofFeature
  examples := s.examples.map Examples.ofFeature
  implemented := false

/-- The blocks of a rule. -/
def ofRule (r : Gherkin.Rule) : List Scenario :=
  r.background.toList.map (ofBackground (some r.name)) ++
    r.scenarios.map (ofScenario (some r.name) r.tags)

end Scenario

namespace Document

/-- The document of a feature. -/
def ofFeature (f : Gherkin.Feature) : Document where
  keyword := f.keyword
  name := f.name
  description := f.description.getD ""
  tags := f.tags
  children :=
    f.background.toList.map (Scenario.ofBackground none) ++
      f.scenarios.map (Scenario.ofScenario none []) ++ f.rules.flatMap Scenario.ofRule
  implemented := false

/-- The document with its descriptions rendered. -/
def renderDescriptions (render : String → String) (d : Document) : Document :=
  { d with
    description := render d.description
    children := d.children.map fun c => { c with description := render c.description } }

end Document

/-- A grammar makes documents of the texts that it accepts; their descriptions are still to be
rendered. -/
abbrev Grammar := String → Option Document

/-- The text with a line feed at its end, added where there is none. -/
def withNewline (source : String) : String :=
  if source.toList.getLast? = some '\n' then source else source ++ "\n"

/-- The grammar of a reader of features. The reader is given texts that end with a line feed. -/
def Grammar.ofFeatures (parse : String → Option Gherkin.Feature) : Grammar := fun source =>
  (parse (withNewline source)).map Document.ofFeature

/-- The document of the text of a feature file, with its descriptions rendered. -/
def Document.read? (grammar : Grammar) (render : String → String) (source : String) :
    Option Document :=
  (grammar source).map (renderDescriptions render)

/-- Why a feature file has no document. -/
inductive FeatureFileError where
  | read (path : Path) (cause : OsError)
  /-- The text of the file is no feature. -/
  | grammar (path : Path)
  deriving DecidableEq, Repr

/-- The text of an error. -/
def FeatureFileError.message : FeatureFileError → String
  | read path cause => "failed to read feature file " ++ path.display ++ ": " ++ cause.message
  | grammar path => "failed to parse feature file " ++ path.display

/-- The document of a file, with its descriptions rendered. -/
def Document.ofFile (grammar : Grammar) (render : String → String) (disk : Disk) (path : Path) :
    Except FeatureFileError Document :=
  match disk.readText path with
  | .error cause => .error (.read path cause)
  | .ok source =>
    match Document.read? grammar render source with
    | some d => .ok d
    | none => .error (.grammar path)

end FeatureDocs
