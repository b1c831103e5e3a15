import FeatureDocs.Document.Annotate
import FeatureDocs.Proofs.Association
import FeatureDocs.Proofs.Text.Blank
import FeatureDocs.Proofs.Text.Escape
import Mathlib.Data.Set.Function

/-!
# Escaped documents

Escaping a document gives every doc string its escaped text, which can be read back, and leaves
everything else as it is.

## Main definitions

* `Document.Escaped`: a document before and after its doc strings have been escaped

## Main results

* `htmlText_eq_iff`: which texts have the same escaped text
* `markup_escaped_once`: what escaping does to a text and to a document
-/

namespace FeatureDocs

open Text (trim references dereference IsTrimOf)

/-! ## Texts -/

theorem toList_htmlText (content : String) :
    (htmlText content).toList = references (trim content.toList) := by
  rw [htmlText, String.toList_ofList, Text.escapeMarkup_eq_references]

/-- The escaped text is read back as the trimmed one. -/
theorem dereference_htmlText (content : String) :
    dereference (htmlText content).toList = trim content.toList := by
  rw [toList_htmlText, Text.dereference_references]

/-- Texts have the same escaped text if they differ in the blank characters around them only. -/
theorem htmlText_eq_iff {s t : String} : htmlText s = htmlText t ↔ s.trimBlank = t.trimBlank := by
  constructor
  · intro h
    rw [String.trimBlank, ← dereference_htmlText, h, dereference_htmlText]
    rfl
  · intro h
    have htrim : trim s.toList = trim t.toList := String.ofList_injective h
    rw [htmlText, htmlText, htrim]

/-- No markup character but the ampersand is left. -/
theorem not_mem_htmlText {c : Char} (h : c ∈ ['<', '>', '"']) (content : String) :
    c ∉ (htmlText content).toList := by
  rw [toList_htmlText]
  refine Text.not_mem_references ?_ _
  exact (List.Perm.swap '>' '<' ['"']).mem_iff.mp h

/-- Every ampersand that is left begins one of the references. -/
theorem exists_entity_htmlText {content : String} {before after : List Char}
    (h : (htmlText content).toList = before ++ '&' :: after) :
    ∃ entity ∈ ["&amp;", "&gt;", "&lt;", "&quot;"], entity.toList <+: '&' :: after := by
  rw [toList_htmlText] at h
  obtain ⟨entity, hmem, hentity⟩ := Text.exists_entity_of_ampersand h
  have hwords : Text.markupReferences.map Prod.snd =
    ["&amp;", "&gt;", "&lt;", "&quot;"].map String.toList := by decide
  rw [hwords, List.mem_map] at hmem
  obtain ⟨word, hword, rfl⟩ := hmem
  exact ⟨word, hword, hentity⟩

/-! ## Documents -/

/-- A step before and after its argument has been escaped: a doc string is trimmed and its markup
characters give way to their references in one pass. -/
structure Step.Escaped (s s' : Step) : Prop where
  /-- Nothing differs but the argument. -/
  rest_eq : { s' with argument := s.argument } = s
  docString : ∀ content, s.argument = some (.docString content) →
    s'.argument = some (.docString (String.ofList (references (trim content.toList))))
  dataTable : ∀ rows, s.argument = some (.dataTable rows) → s'.argument = some (.dataTable rows)
  absent : s.argument = none → s'.argument = none

/-- A block before and after the arguments of its steps have been escaped. -/
structure Scenario.Escaped (s s' : Scenario) : Prop where
  /-- Nothing differs but the steps. -/
  rest_eq : { s' with steps := s.steps } = s
  steps : List.Forall₂ Step.Escaped s.steps s'.steps

/-- A document before and after the arguments of all steps have been escaped. -/
structure Document.Escaped (d d' : Document) : Prop where
  /-- Nothing differs but the blocks. -/
  rest_eq : { d' with children := d.children } = d
  children : List.Forall₂ Scenario.Escaped d.children d'.children

theorem Step.escaped_escapeArgument (s : Step) : s.Escaped s.escapeArgument where
  rest_eq := rfl
  docString content h := by
    rw [escapeArgument, h, Option.map_some, StepArgument.escape, htmlText,
      Text.escapeMarkup_eq_references]
  dataTable rows h := by rw [escapeArgument, h, Option.map_some, StepArgument.escape]
  absent h := by rw [escapeArgument, h, Option.map_none]

theorem Scenario.escaped_escapeArguments (s : Scenario) : s.Escaped s.escapeArguments where
  rest_eq := rfl
  steps := by
    rw [escapeArguments, List.forall₂_map_right_iff, List.forall₂_same]
    exact fun step _ => step.escaped_escapeArgument

theorem Document.escaped_escapeArguments (d : Document) : d.Escaped d.escapeArguments where
  rest_eq := rfl
  children := by
    rw [escapeArguments, List.forall₂_map_right_iff, List.forall₂_same]
    exact fun c _ => c.escaped_escapeArguments

/-- **Markup is escaped once, in one pass.**

The escaped text is the trimmed one with each markup character replaced by its reference. No `<`,
`>` or `"` is left in it, each `&` begins one of the four references, and reading those back in one
pass gives the trimmed text. So texts have the same escaped text exactly if they are equal once
trimmed. In an escaped document, each doc string is the escaped text of what it was, and nothing
else differs. -/
theorem markup_escaped_once :
    (∀ content : String,
      IsTrimOf content.toList (trim content.toList) ∧
      htmlText content = String.ofList (references (trim content.toList)) ∧
      (∀ c ∈ ['<', '>', '"'], c ∉ (htmlText content).toList) ∧
      (∀ before after, (htmlText content).toList = before ++ '&' :: after →
        ∃ entity ∈ ["&amp;", "&gt;", "&lt;", "&quot;"], entity.toList <+: '&' :: after) ∧
      dereference (htmlText content).toList = trim content.toList) ∧
    (∀ s t : String, htmlText s = htmlText t ↔ s.trimBlank = t.trimBlank) ∧
    Set.InjOn htmlText {s | s.trimBlank = s} ∧
    ∀ d : Document, d.Escaped d.escapeArguments := by
  refine ⟨fun content => ⟨Text.isTrimOf_trim _, ?_, fun c hc => not_mem_htmlText hc content,
    fun before after => exists_entity_htmlText, dereference_htmlText content⟩,
    fun s t => htmlText_eq_iff, ?_, Document.escaped_escapeArguments⟩
  · rw [htmlText, Text.escapeMarkup_eq_references]
  · -- Texts without blank characters around them are equal once trimmed only if they are equal.
    intro s hs t ht h
    rw [← show s.trimBlank = s from hs, htmlText_eq_iff.mp h]
    exact ht

end FeatureDocs
