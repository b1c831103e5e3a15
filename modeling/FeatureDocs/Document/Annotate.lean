import FeatureDocs.Document.Basic
import FeatureDocs.Text.Escape

/-!
# Annotations of a document

Three passes prepare a document: tags lose the `@` in front, doc strings are escaped for HTML, and
every block takes over the tags and the name of its feature.
-/

namespace FeatureDocs

/-- A tag without one `@` in front. -/
def bareTag (tag : String) : String :=
  match tag.toList with
  | '@' :: s => String.ofList s
  | _ => tag

/-- The examples with bare tags. -/
def Examples.bareTags (e : Examples) : Examples := { e with tags := e.tags.map bareTag }

/-- The block with bare tags, and with those of its examples bare. -/
def Scenario.bareTags (s : Scenario) : Scenario :=
  { s with
    tags := s.tags.map bareTag
    examples := s.examples.map Examples.bareTags }

/-- The argument with a doc string escaped; a table stays as it is. -/
def StepArgument.escape : StepArgument → StepArgument
  | docString content => .docString (htmlText content)
  | dataTable rows => .dataTable rows

/-- The step with its argument escaped. -/
def Step.escapeArgument (s : Step) : Step :=
  { s with argument := s.argument.map StepArgument.escape }

/-- The block with the arguments of its steps escaped. -/
def Scenario.escapeArguments (s : Scenario) : Scenario :=
  { s with steps := s.steps.map Step.escapeArgument }

namespace Document

/-- The document with all its tags bare. -/
def bareTags (d : Document) : Document :=
  { d with
    tags := d.tags.map bareTag
    children := d.children.map Scenario.bareTags }

/-- The document with the arguments of all steps escaped. -/
def escapeArguments (d : Document) : Document :=
  { d with children := d.children.map Scenario.escapeArguments }

/-- The document with the tags and the name of the feature recorded in every block. -/
def inheritFeature (d : Document) : Document :=
  { d with
    children := d.children.map fun c => { c with featureTags := d.tags, featureName := d.name } }

end Document

end FeatureDocs
