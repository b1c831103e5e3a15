import FeatureDocs.Document.Resolve
import FeatureDocs.Pattern.Match
import FeatureDocs.Step.Definition

/-!
# The registry of step definitions

A registry holds the definitions whose patterns compile, in the order in which they came. It
matches a step line with the first of them that is eligible for the keyword of the line and whose
pattern matches the text.

## Main definitions

* `CompiledDefinition`, `Registry`: registered definitions
* `Registry.register`: the registry with the definitions of one more source
* `Registry.find`, `Registry.lookup`: the first definition that matches
-/

namespace FeatureDocs

/-- A step definition whose pattern has been compiled. -/
structure CompiledDefinition where
  definition : StepDefinition
  compiled : Pattern
  sourcePath : Path
  deriving DecidableEq, Repr

/-- The pattern of a definition does not compile. -/
structure CompileError where
  path : Path
  function : QualifiedName
  keyword : Keyword
  pattern : String
  cause : PatternError
  deriving DecidableEq, Repr

/-- The text of the error. -/
def CompileError.message (e : CompileError) : String :=
  "failed to compile step pattern '" ++ e.pattern ++ "' for " ++ e.keyword.name ++ " step '" ++
    e.function.qualified ++ "' in " ++ e.path.display ++ ": " ++ e.cause.message

/-- Compiles the pattern of a definition. -/
def StepDefinition.compile (fits : SizeLimit) (path : Path) (d : StepDefinition) :
    Except CompileError CompiledDefinition :=
  match Pattern.compile fits d.pattern with
  | .ok compiled => .ok ⟨d, compiled, path⟩
  | .error cause => .error ⟨path, d.function, d.keyword, d.pattern, cause⟩

namespace CompiledDefinition

/-- A definition is eligible for its own keyword, and for a conjunction or no keyword at all. -/
def isEligible (d : CompiledDefinition) : Option Keyword → Bool
  | none => true
  | some k => k.isConjunction || d.definition.keyword == k

/-- The definition as it is reported for a step that it matches. -/
def matched (d : CompiledDefinition) (captures : List String) : FoundDefinition where
  keyword := d.definition.keyword.name
  pattern := d.definition.pattern
  patternInferred := d.definition.patternInferred
  function := d.definition.function.qualified
  sourcePath := d.sourcePath
  line := d.definition.line
  captures

end CompiledDefinition

/-- Registered step definitions in order. -/
structure Registry where
  definitions : List CompiledDefinition
  deriving Repr

namespace Registry

/-- The registry without definitions. -/
def empty : Registry := ⟨[]⟩

/-- The definitions of a source that compile. -/
def compiled (fits : SizeLimit) (index : SourceIndex) : List CompiledDefinition :=
  index.stepDefinitions.filterMap fun d => (d.compile fits index.path).toOption

/-- The errors of the definitions of a source that do not compile. -/
def skipped (fits : SizeLimit) (index : SourceIndex) : List CompileError :=
  index.stepDefinitions.filterMap fun d =>
    match d.compile fits index.path with
    | .ok _ => none
    | .error e => some e

/-- The registry with the definitions of one more source, and the errors of those that do not
compile. -/
def register (fits : SizeLimit) (r : Registry) (index : SourceIndex) :
    Registry × List CompileError :=
  (⟨r.definitions ++ compiled fits index⟩, skipped fits index)

/-- The first definition that is eligible for a keyword and matches a text, with the values of the
placeholders. -/
def find (r : Registry) (keyword : Option Keyword) (text : String) :
    Option (CompiledDefinition × List String) :=
  r.definitions.findSome? fun d =>
    if d.isEligible keyword then (d.compiled.captures? text).map fun captures => (d, captures)
    else none

/-- What the registry finds for a step line. -/
def lookup (r : Registry) (line : String) : StepMatch :=
  let line := StepLine.ofString line
  match r.find line.keyword (String.ofList line.text) with
  | none => .unmatched
  | some (d, captures) => .matched (d.matched captures)

/-- The registry as a matcher, which never fails. -/
def matcher (r : Registry) : Matcher := fun line => .ok (r.lookup line)

end Registry

end FeatureDocs
