import FeatureDocs.Proofs.Association
import FeatureDocs.Proofs.Code.Function
import FeatureDocs.Proofs.Traversal
import FeatureDocs.Step.Definition
import Mathlib.Data.List.ReduceOption

/-!
# The definitions of a source

The step definitions of a source are those of its functions, in source order. Each function is
looked at by itself: it has no step attribute and is no definition, or it has one and is the
definition that the attribute says. If it has several, or arguments that are no single literal, the
source is refused, and so the first such function of a source decides on its error.

## Main definitions

* `Code.Function.stepAttributes`, `Code.Function.definition`: a function as a step definition
* `Code.Function.RefusedFor`: why a function is refused

## Main results

* `definitionsOfItems_eq`: the definitions of items are those of their functions
* `indexSource_eq_ok_iff`, `indexSource_eq_error_iff`: what indexing a source gives
* `isConjunction_of_mem_indexSource`: no definition is for a conjunction
-/

namespace FeatureDocs

open Code (Item)

namespace Code.Function

/-- The step attributes of a function, in order. -/
def stepAttributes (f : Function) : List DefiningAttribute :=
  f.attributes.filterMap DefiningAttribute.ofAttribute?

/-- The step definition that a function of a source is, if it is one. -/
def definition (source : List Char) (f : Function) : Except IndexingError (Option StepDefinition) :=
  definitionOf source f.modulePath f.attributes f.name f.source

/-- A function is refused because of its step attributes: there are several, or the arguments of the
only one are at fault. -/
def RefusedFor (f : Function) (e : IndexingError) : Prop :=
  (1 < f.stepAttributes.length ∧ e = .multipleAttributes f.name) ∨
    ∃ a fault, f.stepAttributes = [a] ∧ patternOfArguments f.name a.arguments = .error fault ∧
      e = .invalidArguments f.name a.name fault

variable {source : List Char} {f : Function}

/-- A function is a definition if it has a single step attribute, and is the one that this says. -/
theorem definition_eq_some_iff {d : StepDefinition} :
    f.definition source = .ok (some d) ↔
      ∃ a, f.stepAttributes = [a] ∧
        patternOfArguments f.name a.arguments = .ok (d.pattern, d.patternInferred) ∧
        d.keyword = a.keyword ∧ d.function = ⟨f.modulePath, f.name⟩ ∧
        d.line = lineOf source f.source := by
  rw [definition, definitionOf, ← stepAttributes]
  rcases f.stepAttributes with _ | ⟨a, _ | ⟨b, rest⟩⟩
  · simp
  · simp only [List.cons.injEq, and_true, exists_eq_left']
    rcases hpattern : patternOfArguments f.name a.arguments with fault | ⟨pattern, inferred⟩
    · simp
    · obtain ⟨keyword, pattern', inferred', function, line⟩ := d
      simp [eq_comm, and_left_comm, and_assoc]
  · simp

theorem definition_eq_error_iff {e : IndexingError} :
    f.definition source = .error e ↔ f.RefusedFor e := by
  rw [definition, definitionOf, ← stepAttributes, RefusedFor]
  rcases f.stepAttributes with _ | ⟨a, _ | ⟨b, rest⟩⟩
  · simp
  · rcases hpattern : patternOfArguments f.name a.arguments with fault | pattern
    · simp [hpattern, eq_comm]
    · simp [hpattern]
  · simp [eq_comm]

/-- A function that is not refused has no step attribute but one. -/
theorem stepAttributes_of_definition {o : Option StepDefinition} (h : f.definition source = .ok o)
    {a : DefiningAttribute} (ha : a ∈ f.stepAttributes) : f.stepAttributes = [a] := by
  rw [definition, definitionOf, ← stepAttributes] at h
  split at h
  · rename_i hnone
    simp [hnone] at ha
  · rename_i b hb
    rw [hb, List.mem_singleton] at ha
    rw [hb, ha]
  · simp at h

end Code.Function

/-! ## Keywords -/

theorem Keyword.isConjunction_ofAttribute? {name : String} {k : Keyword}
    (h : Keyword.ofAttribute? name = some k) : k.isConjunction = false := by
  unfold Keyword.ofAttribute? at h
  split at h <;> cases h <;> rfl

/-- The keyword of a step attribute is no conjunction. -/
theorem DefiningAttribute.isConjunction_keyword {a : Code.Attribute} {d : DefiningAttribute}
    (h : DefiningAttribute.ofAttribute? a = some d) : d.keyword.isConjunction = false := by
  obtain ⟨name, -, h⟩ := Option.bind_eq_some_iff.mp h
  obtain ⟨k, hk, h⟩ := Option.bind_eq_some_iff.mp h
  obtain rfl := Option.some.inj h
  exact Keyword.isConjunction_ofAttribute? hk

theorem isConjunction_of_definition {source : List Char} {f : Code.Function} {d : StepDefinition}
    (h : f.definition source = .ok (some d)) : d.keyword.isConjunction = false := by
  obtain ⟨a, ha, -, hd, -⟩ := Code.Function.definition_eq_some_iff.mp h
  have hmem : a ∈ f.stepAttributes := ha ▸ List.mem_singleton_self a
  obtain ⟨written, -, hwritten⟩ := List.mem_filterMap.mp hmem
  exact hd ▸ DefiningAttribute.isConjunction_keyword hwritten

/-! ## Items -/

section Items

variable (source : List Char)

mutual

/-- The definitions of an item are those of its functions. -/
theorem definitionsOfItem_eq : ∀ (modulePath : List String) (item : Item),
    definitionsOfItem source modulePath item =
      ((item.functions modulePath).mapM (Code.Function.definition source)).map List.reduceOption
  | modulePath, .function attributes name rest => by
    rw [definitionsOfItem, Item.functions]
    change (Code.Function.definition source ⟨modulePath, attributes, name, rest⟩).map _ = _
    rcases hd : Code.Function.definition source ⟨modulePath, attributes, name, rest⟩ with e | _ | d
    · rw [mapM_cons_error hd]
      rfl
    · rw [mapM_cons_ok hd]
      rfl
    · rw [mapM_cons_ok hd]
      rfl
  | modulePath, .module name items => by
    rw [definitionsOfItem, Item.functions, definitionsOfItems_eq]
  | _, .other => rfl

/-- **The definitions of items are those of their functions**, in order; the first function that is
refused decides on the error. -/
theorem definitionsOfItems_eq : ∀ (modulePath : List String) (items : List Item),
    definitionsOfItems source modulePath items =
      ((Item.functionsOfAll modulePath items).mapM (Code.Function.definition source)).map
        List.reduceOption
  | _, [] => rfl
  | modulePath, item :: items => by
    rw [definitionsOfItems, Item.functionsOfAll, List.mapM_append, definitionsOfItem_eq,
      definitionsOfItems_eq modulePath items]
    cases (item.functions modulePath).mapM (Code.Function.definition source) with
    | error e => rfl
    | ok ds =>
      cases (Item.functionsOfAll modulePath items).mapM (Code.Function.definition source) with
      | error e => rfl
      | ok later =>
        simp [bind, Except.bind, pure, Except.pure, Except.map, List.reduceOption_append]

end

end Items

/-! ## Sources -/

variable {read : Code.SourceReader} {path : Path} {source : String}

/-- A source is indexed if it is a list of items none of whose functions is refused. -/
theorem indexSource_eq_ok_iff {index : SourceIndex} :
    indexSource read path source = .ok index ↔
      ∃ items ds, read source.toList = some items ∧
        List.Forall₂ (fun f d => f.definition source.toList = .ok d)
          (Item.functionsOfAll [] items) ds ∧
        index = ⟨path, ds.reduceOption⟩ := by
  rw [indexSource]
  cases hitems : read source.toList with
  | none => simp
  | some items =>
    simp only [Option.some.injEq, exists_and_left, exists_eq_left', definitionsOfItems_eq,
      map_eq_ok_iff, mapM_eq_ok_iff]
    simp [eq_comm]

/-- A source is refused if it is no list of items, or else because of its first function that is
refused. -/
theorem indexSource_eq_error_iff {e : IndexingError} :
    indexSource read path source = .error e ↔
      (read source.toList = none ∧ e = .parse path) ∨
      ∃ items before f after, read source.toList = some items ∧
        Item.functionsOfAll [] items = before ++ f :: after ∧
        (∀ g ∈ before, ∀ e, ¬ g.RefusedFor e) ∧ f.RefusedFor e := by
  rw [indexSource]
  cases hitems : read source.toList with
  | none => simp [eq_comm]
  | some items =>
    have hrefused : ∀ (g : Code.Function) (e : IndexingError),
        g.RefusedFor e ↔ g.definition source.toList = .error e := fun _ _ =>
      Code.Function.definition_eq_error_iff.symm
    simp only [reduceCtorEq, false_and, false_or, Option.some.injEq, exists_eq_left',
      exists_and_left, definitionsOfItems_eq, map_eq_error_iff, mapM_eq_error_iff,
      exists_eq_ok_iff, hrefused]

/-- No definition of a source is for a conjunction. -/
theorem isConjunction_of_mem_indexSource {index : SourceIndex}
    (h : indexSource read path source = .ok index) {d : StepDefinition}
    (hd : d ∈ index.stepDefinitions) : d.keyword.isConjunction = false := by
  obtain ⟨items, ds, -, hds, rfl⟩ := indexSource_eq_ok_iff.mp h
  obtain ⟨f, -, hf⟩ := exists_partner hds.flip (List.reduceOption_mem_iff.mp hd)
  exact isConjunction_of_definition hf

end FeatureDocs
