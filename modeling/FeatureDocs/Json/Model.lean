import FeatureDocs.Json.Basic
import FeatureDocs.TagIndex
import FeatureDocs.Tree.Basic

/-!
# Documentation as JSON

The JSON form of documents, tag indexes and documentation trees. Paths are written as text; one
that is no text has no JSON form, and neither has anything that holds it.
-/

namespace FeatureDocs

/-- The JSON form of a path. -/
def Path.toJson? (p : Path) : Option Json := p.text?.map Json.string

/-- The JSON form of a matched definition. -/
def FoundDefinition.toJson? (d : FoundDefinition) : Option Json := do
  return .object [
    ("keyword", .string d.keyword),
    ("pattern", .string d.pattern),
    ("patternInferred", .bool d.patternInferred),
    ("function", .string d.function),
    ("sourcePath", ← d.sourcePath.toJson?),
    ("line", .number d.line),
    ("captures", .ofStrings d.captures)]

/-- The JSON form of what may be missing. -/
def optionalJson? {α : Type} (toJson? : α → Option Json) : Option α → Option Json
  | none => some .null
  | some a => toJson? a

/-- The JSON form of a match. -/
def StepMatch.toJson? (m : StepMatch) : Option Json := do
  return .object [
    ("stepMatch", .bool m.isMatched),
    ("definition", ← optionalJson? FoundDefinition.toJson? m.definition?)]

/-- The JSON form of a table. -/
def rowsToJson (rows : List (List String)) : Json := .array (rows.map Json.ofStrings)

/-- The JSON form of an argument. -/
def StepArgument.toJson : StepArgument → Json
  | docString content => .object [("type", .string "docString"), ("content", .string content)]
  | dataTable rows => .object [("type", .string "dataTable"), ("rows", rowsToJson rows)]

/-- The JSON form of a step. -/
def Step.toJson? (s : Step) : Option Json := do
  return .object [
    ("keyword", .string s.keyword),
    ("text", .string s.text),
    ("argument", (s.argument.map StepArgument.toJson).getD .null),
    ("implementation", ← optionalJson? StepMatch.toJson? s.implementation),
    ("tags", .ofStrings s.tags)]

/-- The JSON form of examples. -/
def Examples.toJson (e : Examples) : Json :=
  .object [("keyword", .string e.keyword), ("tags", .ofStrings e.tags), ("rows", rowsToJson e.rows)]

/-- The name of a kind of block. -/
def ScenarioKind.name : ScenarioKind → String
  | background => "background"
  | scenario => "scenario"
  | scenarioOutline => "scenarioOutline"

/-- The JSON form of a block. -/
def Scenario.toJson? (s : Scenario) : Option Json := do
  return .object [
    ("kind", .string s.kind.name),
    ("keyword", .string s.keyword),
    ("name", .string s.name),
    ("description", .string s.description),
    ("rule", .ofOption s.rule),
    ("tags", .ofStrings s.tags),
    ("featureTags", .ofStrings s.featureTags),
    ("featureName", .string s.featureName),
    ("steps", .array (← s.steps.mapM Step.toJson?)),
    ("examples", .array (s.examples.map Examples.toJson)),
    ("implemented", .bool s.implemented)]

/-- The JSON form of a document. -/
def Document.toJson? (d : Document) : Option Json := do
  return .object [
    ("keyword", .string d.keyword),
    ("name", .string d.name),
    ("description", .string d.description),
    ("tags", .ofStrings d.tags),
    ("children", .array (← d.children.mapM Scenario.toJson?)),
    ("implemented", .bool d.implemented)]

/-- The JSON form of a tag summary. -/
def TagCount.toJson (t : TagCount) : Json :=
  .object [("name", .string t.name), ("count", .number t.count)]

/-- The members of the JSON form of a tag index. -/
def TagIndex.jsonMembers? (index : TagIndex) : Option (List (String × Json)) := do
  let perTag ← index.buckets.mapM fun (tag, positions) => do
    return (tag, Json.array (← (index.members positions).mapM Scenario.toJson?))
  return [
    ("scenaria", .array (← index.scenarios.mapM Scenario.toJson?)),
    ("scenariaPerTag", .object perTag),
    ("tags", .array (index.tags.map TagCount.toJson))]

namespace DocTree

mutual

/-- The JSON form of a tree. -/
def toJson? : DocTree → Option Json
  | .directory place tocName children => do
    return .object [
      ("type", .string "directory"),
      ("path", ← place.path.toJson?),
      ("name", .string place.name),
      ("tocName", .string tocName),
      ("writePath", ← place.writePath.toJson?),
      ("children", .array (← toJsonAll? children))]
  | .feature place page => do
    return .object [
      ("type", .string "featurefile"),
      ("path", ← place.path.toJson?),
      ("name", .string place.name),
      ("tocName", .string page.tocName),
      ("link", .string page.link),
      ("writePath", ← place.writePath.toJson?),
      ("rootFolder", .string page.rootFolder),
      ("document", ← page.document.toJson?)]
  | .file place => do
    return .object [
      ("type", .string "file"),
      ("path", ← place.path.toJson?),
      ("name", .string place.name),
      ("writePath", ← place.writePath.toJson?)]

/-- The JSON forms of several trees. -/
def toJsonAll? : List DocTree → Option (List Json)
  | [] => some []
  | node :: nodes => do return (← toJson? node) :: (← toJsonAll? nodes)

end

end DocTree

end FeatureDocs
