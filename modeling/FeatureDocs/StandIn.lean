import FeatureDocs.Document.Resolve

/-!
# Stand-ins

Matchers and a renderer with which documents and trees can be built without step sources and
without Markdown: a matcher that knows a list of lines, one that fails, and a renderer that marks
what it is given.
-/

namespace FeatureDocs.StandIn

/-- What a matcher that knows a line says of it. -/
def knownLine (line : String) : StepMatch :=
  .matched {
    keyword := ""
    pattern := line
    patternInferred := false
    function := "fake_step"
    sourcePath := .ofString "fake_steps.rs"
    line := 1
    captures := [] }

/-- The matcher that knows the lines, and no others. -/
def knowing (lines : List String) : Matcher := fun line =>
  .ok (if lines.contains line then knownLine line else .unmatched)

/-- The matcher that fails on every line. -/
def failing : Matcher := fun line => .error ⟨line, "matcher offline"⟩

/-- The matcher that fails on some lines and otherwise does as another one. -/
def failingOn (lines : List String) (matcher : Matcher) : Matcher := fun line =>
  if lines.contains line then failing line else matcher line

/-- The renderer that marks where a text begins and ends. -/
def marked (text : String) : String := "<md>" ++ text ++ "</md>"

end FeatureDocs.StandIn
