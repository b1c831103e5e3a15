import FeatureDocs.Document.OfFeature
import Mathlib.Algebra.Ring.Nat
import Mathlib.Data.List.Forall2

/-!
# The blocks of a feature

The background and the scenarios of a feature, and those of its rules behind them, are its blocks.
The document of the feature has one child for each, in the same order: nothing is lost, invented or
moved. Rendering then gives the document and each child the rendered form of the description that
was written for it, and changes nothing else.

## Main definitions

* `Gherkin.Block`, `Gherkin.Feature.blocks`: blocks with the rules around them
* `Scenario.Documents`, `Document.Documents`: what is documented of a block and of a feature
* `Document.Renders`: a document before and after its descriptions have been rendered

## Main results

* `Document.documents_ofFeature`: the document of a feature
* `Document.blocks_documented`: the document of a text
-/

namespace FeatureDocs

namespace Gherkin

/-- A background or a scenario, with the rule around it if there is one. -/
inductive Block where
  | background (rule : Option Rule) (b : Background)
  | scenario (rule : Option Rule) (s : Scenario)

namespace Block

def keyword : Block → String
  | background _ b => b.keyword
  | scenario _ s => s.keyword

def name : Block → String
  | background _ b => b.name
  | scenario _ s => s.name

def description : Block → Option String
  | background _ b => b.description
  | scenario _ s => s.description

def rule : Block → Option Rule
  | background r _ => r
  | scenario r _ => r

def steps : Block → List Step
  | background _ b => b.steps
  | scenario _ s => s.steps

/-- The tags that stand at the block itself. -/
def ownTags : Block → List String
  | background _ _ => []
  | scenario _ s => s.tags

def examples : Block → List Examples
  | background _ _ => []
  | scenario _ s => s.examples

/-- The block is a background. -/
def IsBackground : Block → Prop
  | background _ _ => True
  | scenario _ _ => False

/-- The blocks of a rule, in the order of the file. -/
def ofRule (r : Rule) : List Block :=
  r.background.toList.map (background (some r)) ++ r.scenarios.map (scenario (some r))

end Block

/-- The blocks of a feature, in the order of the file. -/
def Feature.blocks (f : Feature) : List Block :=
  f.background.toList.map (.background none) ++ f.scenarios.map (.scenario none) ++
    f.rules.flatMap Block.ofRule

/-- The number of the blocks of a feature. -/
def Feature.size (f : Feature) : Nat :=
  f.background.toList.length + f.scenarios.length +
    (f.rules.map fun r => r.background.toList.length + r.scenarios.length).sum

theorem Feature.length_blocks (f : Feature) : f.blocks.length = f.size := by
  simp only [blocks, size, Block.ofRule, List.length_append, List.length_map, List.length_flatMap]

end Gherkin

/-! ## What is documented -/

/-- A step of a document has the keyword of a step of the feature with one blank behind it, its
text, and its doc string or else its table. Nothing has been found for it yet. -/
structure Step.Documents (step : Step) (g : Gherkin.Step) : Prop where
  keyword_eq : step.keyword = g.keyword.trimBlankEnd ++ " "
  text_eq : step.text = g.text
  docString : ∀ content, g.docString = some content → step.argument = some (.docString content)
  dataTable : g.docString = none → ∀ rows, g.table = some rows →
    step.argument = some (.dataTable rows)
  noArgument : g.docString = none → g.table = none → step.argument = none
  unmatched : step.implementation = none ∧ step.tags = []

/-- Examples of a document have the keyword, the tags and the rows of examples of the feature. -/
structure Examples.Documents (e : Examples) (g : Gherkin.Examples) : Prop where
  keyword_eq : e.keyword = g.keyword
  tags_eq : e.tags = g.tags
  rows_of_table : ∀ rows, g.table = some rows → e.rows = rows
  rows_of_none : g.table = none → e.rows = []

/-- A child of a document has what is written in a block of the feature, and nothing of the feature
or of a run of the matcher yet. -/
structure Scenario.Documents (c : Scenario) (b : Gherkin.Block) : Prop where
  keyword_eq : c.keyword = b.keyword
  name_eq : c.name = b.name
  /-- An absent description is an empty one. -/
  description_eq : c.description = b.description.getD ""
  background_iff : c.kind = .background ↔ b.IsBackground
  outline_iff : c.kind = .scenarioOutline ↔ c.examples ≠ []
  rule_eq : c.rule = b.rule.map Gherkin.Rule.name
  tags_background : b.IsBackground → c.tags = []
  /-- The tags of the rule come behind those of the scenario. -/
  tags_scenario : ¬ b.IsBackground → c.tags = b.ownTags ++ b.rule.toList.flatMap Gherkin.Rule.tags
  steps : List.Forall₂ Step.Documents c.steps b.steps
  examples : List.Forall₂ Examples.Documents c.examples b.examples
  pristine : c.featureTags = [] ∧ c.featureName = "" ∧ c.implemented = false

/-- A document has a child for each block of a feature, in order. -/
structure Document.Documents (d : Document) (f : Gherkin.Feature) : Prop where
  keyword_eq : d.keyword = f.keyword
  name_eq : d.name = f.name
  description_eq : d.description = f.description.getD ""
  tags_eq : d.tags = f.tags
  children : List.Forall₂ Scenario.Documents d.children f.blocks
  pristine : d.implemented = false

/-- A block before and after its description has been rendered. -/
structure Scenario.Renders (render : String → String) (c c' : Scenario) : Prop where
  description_eq : c'.description = render c.description
  /-- Nothing differs but the description. -/
  rest_eq : { c' with description := c.description } = c

/-- A document before and after the descriptions in it have been rendered. -/
structure Document.Renders (render : String → String) (d d' : Document) : Prop where
  description_eq : d'.description = render d.description
  /-- Nothing differs but the description and the children. -/
  rest_eq : { d' with description := d.description, children := d.children } = d
  children : List.Forall₂ (Scenario.Renders render) d.children d'.children

/-! ## The document of a feature -/

theorem Step.documents_ofFeature (g : Gherkin.Step) : (Step.ofFeature g).Documents g where
  keyword_eq := rfl
  text_eq := rfl
  docString content h := by simp [ofFeature, h]
  dataTable h rows hrows := by simp [ofFeature, h, hrows]
  noArgument h hrows := by simp [ofFeature, h, hrows]
  unmatched := ⟨rfl, rfl⟩

theorem Examples.documents_ofFeature (g : Gherkin.Examples) :
    (Examples.ofFeature g).Documents g where
  keyword_eq := rfl
  tags_eq := rfl
  rows_of_table rows h := by rw [ofFeature, h, Option.getD_some]
  rows_of_none h := by rw [ofFeature, h, Option.getD_none]

namespace Scenario

/-- The child for a block. -/
def ofBlock : Gherkin.Block → Scenario
  | .background rule b => ofBackground (rule.map Gherkin.Rule.name) b
  | .scenario rule s =>
    ofScenario (rule.map Gherkin.Rule.name) (rule.toList.flatMap Gherkin.Rule.tags) s

theorem documents_ofBlock (b : Gherkin.Block) : (ofBlock b).Documents b := by
  have hsteps : ∀ steps : List Gherkin.Step,
      List.Forall₂ Step.Documents (steps.map Step.ofFeature) steps := fun steps => by
    rw [List.forall₂_map_left_iff, List.forall₂_same]
    exact fun g _ => Step.documents_ofFeature g
  cases b with
  | background rule b =>
    constructor <;> simp [ofBlock, ofBackground, Gherkin.Block.keyword, Gherkin.Block.name,
      Gherkin.Block.description, Gherkin.Block.IsBackground, Gherkin.Block.rule,
      Gherkin.Block.steps, Gherkin.Block.examples, hsteps]
  | scenario rule s =>
    have hkind : (ofBlock (.scenario rule s)).kind =
        if s.examples = [] then .scenario else .scenarioOutline := by
      simp [ofBlock, ofScenario, List.isEmpty_iff]
    have hexamples : List.Forall₂ Examples.Documents (s.examples.map Examples.ofFeature)
        s.examples := by
      rw [List.forall₂_map_left_iff, List.forall₂_same]
      exact fun g _ => Examples.documents_ofFeature g
    refine ⟨rfl, rfl, rfl, ?_, ?_, rfl, fun h => h.elim, fun _ => rfl, hsteps s.steps, hexamples,
      rfl, rfl, rfl⟩
    · rw [hkind]
      split <;> simp [Gherkin.Block.IsBackground]
    · rw [hkind]
      split <;> simp_all [ofBlock, ofScenario]

end Scenario

namespace Document

/-- The children of a document are those for the blocks of its feature. -/
theorem children_ofFeature (f : Gherkin.Feature) :
    (ofFeature f).children = f.blocks.map Scenario.ofBlock := by
  have hrule : Scenario.ofRule = fun r => (Gherkin.Block.ofRule r).map Scenario.ofBlock := by
    funext r
    rw [Scenario.ofRule, Gherkin.Block.ofRule, List.map_append, List.map_map, List.map_map]
    simp only [Function.comp_def, Scenario.ofBlock, Option.map_some, Option.toList_some,
      List.flatMap_singleton]
  rw [ofFeature, Gherkin.Feature.blocks, List.map_append, List.map_append, List.map_map,
    List.map_map, List.map_flatMap, hrule]
  rfl

/-- **The document of a feature has a child for each block, in order.** -/
theorem documents_ofFeature (f : Gherkin.Feature) : (ofFeature f).Documents f where
  keyword_eq := rfl
  name_eq := rfl
  description_eq := rfl
  tags_eq := rfl
  children := by
    rw [children_ofFeature, List.forall₂_map_left_iff, List.forall₂_same]
    exact fun b _ => Scenario.documents_ofBlock b
  pristine := rfl

theorem renders_renderDescriptions (render : String → String) (d : Document) :
    d.Renders render (d.renderDescriptions render) where
  description_eq := rfl
  rest_eq := rfl
  children := by
    rw [renderDescriptions, List.forall₂_map_right_iff, List.forall₂_same]
    exact fun c _ => ⟨rfl, rfl⟩

/-- **Each block of a feature is documented once, in its place.**

The document of a feature has as many children as there are backgrounds and scenarios: first those
of the feature, then rule by rule those of the rules, each with its name, keyword, steps and
examples. It names the rule around it if there is one; the tags of a scenario come before those of
the rule, and a background has none; an outline is what has examples. A text that the reader of
features takes for one has a document, which differs from that in its descriptions only: each of
them is rendered once, an absent one as an empty one. -/
theorem blocks_documented (parse : String → Option Gherkin.Feature) (render : String → String) :
    (∀ f : Gherkin.Feature, (ofFeature f).Documents f ∧ (ofFeature f).children.length = f.size) ∧
      ∀ source,
        (read? (.ofFeatures parse) render source = none ↔ parse (withNewline source) = none) ∧
        ∀ f, parse (withNewline source) = some f →
          ∃ d, read? (.ofFeatures parse) render source = some d ∧ (ofFeature f).Renders render d ∧
            d.description = render (f.description.getD "") ∧
            List.Forall₂ (fun c b => c.description = render (b.description.getD ""))
              d.children f.blocks := by
  refine ⟨fun f => ⟨documents_ofFeature f, ?_⟩, fun source => ⟨?_, fun f hf => ?_⟩⟩
  · rw [(documents_ofFeature f).children.length_eq, f.length_blocks]
  · rw [read?, Grammar.ofFeatures, Option.map_eq_none_iff, Option.map_eq_none_iff]
  · refine ⟨(ofFeature f).renderDescriptions render, by rw [read?, Grammar.ofFeatures, hf]; rfl,
      renders_renderDescriptions render _, rfl, ?_⟩
    -- A child is rendered from the description that was written for its block.
    rw [renderDescriptions, List.forall₂_map_left_iff]
    exact (documents_ofFeature f).children.imp fun c b h => congrArg render h.description_eq

end Document

end FeatureDocs
