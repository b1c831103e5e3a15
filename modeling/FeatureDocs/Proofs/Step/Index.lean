import FeatureDocs.Proofs.Code.Place
import FeatureDocs.Proofs.Step.Definition
import Mathlib.Data.List.Sort

/-!
# The index of a source

A source is indexed function by function, in the order in which they stand in it. A function that
has one step attribute, by the last segment of an attribute's path, gives one definition, which
names the modules around the function. A function that has several is refused, and so is one whose
step attribute holds anything but a single string literal; of the functions of a source that offend
in one of these ways the first decides on the error.

## Main definitions

* `Code.Function.Offends`, `Code.Function.RefusedWith`: functions that have no definition, and why
* `Code.Function.Defines`: the definition that a function gives
* `DefinedInOrder`, `FirstRefused`: what the index of a source is, and its error

## Main results

* `indexSource_of_items`: the index of a source whose items are known
-/

namespace FeatureDocs

open Code (Item Tree Declares functionAt? sourceText)

namespace Code

/-- The words that make an attribute a step attribute, with the keywords they stand for. -/
def stepWords : List (String × Keyword) := [("given", .given), ("when", .when), ("then", .then)]

/-- The attribute is a step attribute: the last segment of its path says so. -/
def Attribute.isStep (a : Attribute) : Bool :=
  a.path.getLast?.any (stepWords.map Prod.fst).contains

/-- Arguments that a step attribute may have: none, or a single string literal. -/
def Arguments.Allowed (arguments : Arguments) : Prop :=
  arguments = .absent ∨ arguments = .list [] ∨
    ∃ literal, arguments = .list [.text literal] ∨ arguments = .value [.text literal]

/-- What is wrong with arguments that a step attribute may not have. -/
inductive Arguments.Faulty : Arguments → ArgumentFault → Prop
  | noLiteral {t : Tree} {ts : List Tree} (h : ∀ literal, t ≠ .text literal) :
      Faulty (.list (t :: ts)) .noLiteral
  | trailing {literal : String} {t : Tree} {ts : List Tree} :
      Faulty (.list (.text literal :: t :: ts)) .trailing
  | noLiteralValue {ts : List Tree} (h : ∀ literal, ts ≠ [.text literal]) :
      Faulty (.value ts) .noLiteralValue

namespace Function

/-- The number of step attributes of a function. -/
def stepCount (f : Function) : Nat := f.attributes.countP Attribute.isStep

/-- The function has several step attributes, or one with arguments that it may not have. -/
def Offends (f : Function) : Prop :=
  1 < f.stepCount ∨ ∃ a ∈ f.attributes, a.isStep = true ∧ ¬ a.arguments.Allowed

/-- The error that an offending function is refused with: several step attributes are reported
whatever their arguments are. -/
def RefusedWith (f : Function) (e : IndexingError) : Prop :=
  (1 < f.stepCount ∧ e = .multipleAttributes f.name) ∨
    (f.stepCount = 1 ∧ ∃ a ∈ f.attributes, a.isStep = true ∧ ∃ word fault,
      a.path.getLast? = some word ∧ a.arguments.Faulty fault ∧
        e = .invalidArguments f.name word fault)

/-- The definition that a function gives by its only step attribute. -/
structure Defines (source : List Char) (f : Function) (d : StepDefinition) : Prop where
  single : f.stepCount = 1
  /-- An attribute stands for the keyword, and its arguments for the pattern. -/
  written : ∃ a ∈ f.attributes, ∃ word, a.path.getLast? = some word ∧
    (word, d.keyword) ∈ stepWords ∧
    patternOfArguments f.name a.arguments = .ok (d.pattern, d.patternInferred)
  function : d.function = ⟨f.modulePath, f.name⟩
  line : d.line = lineOf source f.source

end Function

end Code

/-- The definitions are those of the functions of items that have one step attribute: one of each,
in the order of their places. -/
def DefinedInOrder (source : List Char) (items : List Item) (ds : List StepDefinition) : Prop :=
  ∃ places : List (List Nat), places.Pairwise (· < ·) ∧
    (∀ place, place ∈ places ↔ ∃ f, functionAt? items place = some f ∧ f.stepCount = 1) ∧
    List.Forall₂ (fun place d => ∃ f, functionAt? items place = some f ∧ f.Defines source d)
      places ds

/-- The error is that of the first function of items that offends. -/
def FirstRefused (items : List Item) (e : IndexingError) : Prop :=
  ∃ place f, functionAt? items place = some f ∧ f.RefusedWith e ∧
    ∀ earlier g, earlier < place → functionAt? items earlier = some g → ¬ g.Offends

/-! ## Step attributes -/

namespace Code

variable {a : Attribute} {arguments : Arguments} {name : String} {fault : ArgumentFault}

theorem keyword_ofAttribute?_eq_some_iff {word : String} {k : Keyword} :
    Keyword.ofAttribute? word = some k ↔ (word, k) ∈ stepWords := by
  unfold Keyword.ofAttribute?
  split
  · simp [stepWords, eq_comm]
  · simp [stepWords, eq_comm]
  · simp [stepWords, eq_comm]
  · simp_all [stepWords]

theorem ofAttribute?_eq_some_iff {d : DefiningAttribute} :
    DefiningAttribute.ofAttribute? a = some d ↔
      a.path.getLast? = some d.name ∧ (d.name, d.keyword) ∈ stepWords ∧
        d.arguments = a.arguments := by
  obtain ⟨word, k, arguments⟩ := d
  unfold DefiningAttribute.ofAttribute?
  rw [← keyword_ofAttribute?_eq_some_iff]
  constructor
  · intro h
    obtain ⟨word', hword, h⟩ := Option.bind_eq_some_iff.mp h
    obtain ⟨k', hk, h⟩ := Option.bind_eq_some_iff.mp h
    cases h
    exact ⟨hword, hk, rfl⟩
  · rintro ⟨hword, hk, harguments⟩
    dsimp only at hword hk harguments
    simp [hword, hk, harguments]

theorem isSome_ofAttribute? : (DefiningAttribute.ofAttribute? a).isSome = a.isStep := by
  rw [Bool.eq_iff_iff, Option.isSome_iff_exists, Attribute.isStep, Option.any_eq_true]
  constructor
  · rintro ⟨d, hd⟩
    obtain ⟨hword, hmem, -⟩ := ofAttribute?_eq_some_iff.mp hd
    exact ⟨d.name, hword, List.contains_iff_mem.mpr (List.mem_map_of_mem hmem)⟩
  · rintro ⟨word, hword, hmem⟩
    obtain ⟨⟨word, k⟩, hk, rfl⟩ := List.mem_map.mp (List.contains_iff_mem.mp hmem)
    exact ⟨⟨word, k, a.arguments⟩, ofAttribute?_eq_some_iff.mpr ⟨hword, hk, rfl⟩⟩

/-- Arguments are at fault where no pattern is read from them. -/
theorem patternOfArguments_eq_error_iff :
    patternOfArguments name arguments = .error fault ↔ arguments.Faulty fault := by
  constructor
  · intro h
    unfold patternOfArguments at h
    split at h
    case h_1 | h_2 | h_3 | h_6 => cases h
    case h_4 literal ts hfilled =>
      cases h
      cases ts with
      | nil => exact absurd rfl hfilled
      | cons t ts => exact .trailing
    case h_5 ts hnil hsingle hcons =>
      cases h
      cases ts with
      | nil => exact absurd rfl hnil
      | cons t ts => exact .noLiteral fun literal ht => hcons literal ts (ht ▸ rfl)
    case h_7 ts hsingle =>
      cases h
      exact .noLiteralValue hsingle
  · intro h
    cases h with
    | @noLiteral t ts h =>
      cases t with
      | text literal => exact absurd rfl (h literal)
      | _ => rfl
    | trailing => rfl
    | @noLiteralValue ts h =>
      rcases ts with _ | ⟨t, _ | ⟨u, ts⟩⟩
      · rfl
      · cases t with
        | text literal => exact absurd rfl (h literal)
        | _ => rfl
      · cases t <;> rfl

/-- A pattern is read from arguments that are allowed, and from no others. -/
theorem exists_patternOfArguments_iff :
    (∃ pattern, patternOfArguments name arguments = .ok pattern) ↔ arguments.Allowed := by
  constructor
  · rintro ⟨pattern, h⟩
    unfold patternOfArguments at h
    split at h
    case h_1 => exact Or.inl rfl
    case h_2 => exact Or.inr (Or.inl rfl)
    case h_3 literal => exact Or.inr (Or.inr ⟨literal, Or.inl rfl⟩)
    case h_6 literal => exact Or.inr (Or.inr ⟨literal, Or.inr rfl⟩)
    case h_4 | h_5 | h_7 => cases h
  · rintro (rfl | rfl | ⟨literal, rfl | rfl⟩)
    all_goals exact ⟨_, rfl⟩

theorem Arguments.exists_faulty_iff (arguments : Arguments) :
    (∃ fault, arguments.Faulty fault) ↔ ¬ arguments.Allowed := by
  -- Whether a pattern is read does not depend on the name of the function.
  rw [← @exists_patternOfArguments_iff arguments "", exists_eq_ok_iff, not_forall_not]
  exact exists_congr fun fault => patternOfArguments_eq_error_iff.symm

namespace Function

variable {source : List Char} {f : Function} {e : IndexingError}

/-- A function has as many step attributes as attributes with a step word. -/
theorem length_stepAttributes (f : Function) : f.stepAttributes.length = f.stepCount := by
  rw [stepAttributes, List.length_filterMap_eq_countP, stepCount]
  exact List.countP_congr fun a _ => by rw [isSome_ofAttribute?]

/-- A function that is not without step attributes has the one found among its attributes. -/
theorem stepAttributes_eq_singleton {a : Attribute} {d : DefiningAttribute} (hf : f.stepCount = 1)
    (ha : a ∈ f.attributes) (hd : DefiningAttribute.ofAttribute? a = some d) :
    f.stepAttributes = [d] := by
  obtain ⟨d', hd'⟩ := List.length_eq_one_iff.mp ((length_stepAttributes f).trans hf)
  have hmem : d ∈ f.stepAttributes := List.mem_filterMap.mpr ⟨a, ha, hd⟩
  rw [hd', List.mem_singleton] at hmem
  rw [hd', hmem]

theorem refusedFor_iff_refusedWith : f.RefusedFor e ↔ f.RefusedWith e := by
  rw [RefusedFor, RefusedWith, length_stepAttributes]
  refine or_congr Iff.rfl ⟨?_, ?_⟩
  · rintro ⟨d, fault, hd, hfault, rfl⟩
    have hmem : d ∈ f.stepAttributes := hd ▸ List.mem_singleton_self d
    obtain ⟨a, ha, had⟩ := List.mem_filterMap.mp hmem
    obtain ⟨hword, -, harguments⟩ := ofAttribute?_eq_some_iff.mp had
    refine ⟨by rw [← length_stepAttributes, hd]; rfl, a, ha, ?_, d.name, fault, hword, ?_, rfl⟩
    · rw [← isSome_ofAttribute?, had, Option.isSome_some]
    · exact harguments ▸ patternOfArguments_eq_error_iff.mp hfault
  · rintro ⟨hf, a, ha, hstep, word, fault, hword, hfault, rfl⟩
    rw [← isSome_ofAttribute?, Option.isSome_iff_exists] at hstep
    obtain ⟨d, hd⟩ := hstep
    obtain ⟨hname, -, harguments⟩ := ofAttribute?_eq_some_iff.mp hd
    obtain rfl : word = d.name := Option.some.inj (hword.symm.trans hname)
    exact ⟨d, fault, stepAttributes_eq_singleton hf ha hd,
      harguments ▸ patternOfArguments_eq_error_iff.mpr hfault, rfl⟩

/-- The functions that are refused are those that offend. -/
theorem offends_iff : f.Offends ↔ ∃ e, f.RefusedWith e := by
  constructor
  · intro h
    by_cases hf : 1 < f.stepCount
    · exact ⟨_, Or.inl ⟨hf, rfl⟩⟩
    · obtain ⟨a, ha, hstep, hdenied⟩ := h.resolve_left hf
      have hone : f.stepCount = 1 :=
        Nat.le_antisymm (Nat.not_lt.mp hf) (List.countP_pos_iff.mpr ⟨a, ha, hstep⟩)
      obtain ⟨word, hword, -⟩ := (Option.any_eq_true _ _).mp hstep
      obtain ⟨fault, hfault⟩ := (Arguments.exists_faulty_iff a.arguments).mpr hdenied
      exact ⟨_, Or.inr ⟨hone, a, ha, hstep, word, fault, hword, hfault, rfl⟩⟩
  · rintro ⟨e, ⟨hf, -⟩ | ⟨-, a, ha, hstep, word, fault, -, hfault, -⟩⟩
    · exact Or.inl hf
    · exact Or.inr ⟨a, ha, hstep, (Arguments.exists_faulty_iff a.arguments).mp ⟨fault, hfault⟩⟩

theorem definition_eq_some_iff_defines {d : StepDefinition} :
    f.definition source = .ok (some d) ↔ f.Defines source d := by
  rw [definition_eq_some_iff]
  constructor
  · rintro ⟨b, hb, hpattern, hkeyword, hfunction, hline⟩
    have hmem : b ∈ f.stepAttributes := hb ▸ List.mem_singleton_self b
    obtain ⟨a, ha, hab⟩ := List.mem_filterMap.mp hmem
    obtain ⟨hword, hk, harguments⟩ := ofAttribute?_eq_some_iff.mp hab
    refine ⟨by rw [← length_stepAttributes, hb]; rfl, ⟨a, ha, b.name, hword, ?_, ?_⟩, hfunction,
      hline⟩
    · exact hkeyword ▸ hk
    · exact harguments ▸ hpattern
  · rintro ⟨hf, ⟨a, ha, word, hword, hk, hpattern⟩, hfunction, hline⟩
    exact ⟨⟨word, d.keyword, a.arguments⟩,
      stepAttributes_eq_singleton hf ha (ofAttribute?_eq_some_iff.mpr ⟨hword, hk, rfl⟩), hpattern,
      rfl, hfunction, hline⟩

/-- A function that is not refused has a definition where it has one step attribute. -/
theorem isSome_of_definition {o : Option StepDefinition} (h : f.definition source = .ok o) :
    o.isSome = decide (f.stepCount = 1) := by
  rw [definition, definitionOf, ← stepAttributes] at h
  rw [← length_stepAttributes]
  split at h
  · rename_i hnil
    cases h
    rw [hnil]
    rfl
  · rename_i a hsingle
    split at h
    · cases h
      rw [hsingle]
      rfl
    · cases h
  · cases h

end Function

end Code

/-! ## Sources -/

/-- Where results stand side by side with elements, those that there are stand side by side with the
elements that have one. -/
theorem forall₂_filter_reduceOption {α β : Type} {R : α → Option β → Prop} {p : α → Bool}
    {l : List α} {os : List (Option β)} (h : List.Forall₂ R l os)
    (hp : ∀ a o, R a o → o.isSome = p a) :
    List.Forall₂ (fun a b => R a (some b)) (l.filter p) os.reduceOption := by
  induction h with
  | nil => exact .nil
  | @cons a o l os hfirst _ ih =>
    have hpa := hp a o hfirst
    cases o with
    | none => rwa [List.filter_cons_of_neg (by simp [← hpa]), List.reduceOption_cons_of_none]
    | some b =>
      rw [List.filter_cons_of_pos (by simp [← hpa]), List.reduceOption_cons_of_some]
      exact .cons hfirst ih

variable {read : Code.SourceReader} {path : Path} {source : String} {items : List Item}

/-- The items of a source determine the definitions in order. -/
theorem DefinedInOrder.unique {source : List Char} {ds ds' : List StepDefinition}
    (h : DefinedInOrder source items ds) (h' : DefinedInOrder source items ds') : ds = ds' := by
  obtain ⟨places, hsorted, hmem, hds⟩ := h
  obtain ⟨places', hsorted', hmem', hds'⟩ := h'
  obtain rfl : places = places' :=
    hsorted.eq_of_mem_iff hsorted' fun place => (hmem place).trans (hmem' place).symm
  refine List.right_unique_forall₂' ?_ hds hds'
  -- There is one function at a place, and it is looked at with one result.
  rintro place d d' ⟨f, hf, hd⟩ ⟨g, hg, hd'⟩
  obtain rfl : f = g := Option.some.inj (hf.symm.trans hg)
  rw [← Code.Function.definition_eq_some_iff_defines] at hd hd'
  exact Option.some.inj (Except.ok.inj (hd.symm.trans hd'))

/-- What functions one after another give are definitions in order. -/
theorem definedInOrder_of_forall₂ {source : List Char} {os : List (Option StepDefinition)}
    (h : List.Forall₂ (fun f o => f.definition source = .ok o) (Item.functionsOfAll [] items) os) :
    DefinedInOrder source items os.reduceOption := by
  rw [← Item.map_snd_locatedFrom 0, List.forall₂_map_left_iff] at h
  -- Beside each result stands the place of its function.
  have hlocated : List.Forall₂ (fun x o => functionAt? items x.1 = some x.2 ∧
      x.2.definition source = .ok o) (Item.locatedFrom 0 items) os :=
    (List.forall₂_and_left _ _).mpr ⟨fun x hx => Item.mem_locatedFrom_zero_iff.mp hx, h⟩
  have hsingle := forall₂_filter_reduceOption (p := fun x => decide (x.2.stepCount = 1)) hlocated
    fun x o hx => Code.Function.isSome_of_definition hx.2
  refine ⟨((Item.locatedFrom 0 items).filter fun x => decide (x.2.stepCount = 1)).map Prod.fst,
    ?_, fun place => ?_, ?_⟩
  · exact List.pairwise_map.mpr ((Item.pairwise_locatedFrom 0 items).filter _)
  · simp only [List.mem_map, List.mem_filter, decide_eq_true_eq, Prod.exists,
      Item.mem_locatedFrom_zero_iff, exists_and_right, exists_eq_right]
  · rw [List.forall₂_map_left_iff]
    exact hsingle.imp fun x d hx =>
      ⟨x.2, hx.1, Code.Function.definition_eq_some_iff_defines.mp hx.2⟩

/-- The functions before one that is listed are those at earlier places. -/
theorem firstRefused_iff {e : IndexingError} :
    FirstRefused items e ↔ ∃ before f after,
      Item.functionsOfAll [] items = before ++ f :: after ∧
        (∀ g ∈ before, ∀ e, ¬ g.RefusedFor e) ∧ f.RefusedFor e := by
  have hsorted := Item.pairwise_locatedFrom 0 items
  constructor
  · rintro ⟨place, f, hf, hrefused, hearlier⟩
    obtain ⟨before, after, hsplit⟩ :=
      List.append_of_mem (Item.mem_locatedFrom_zero_iff.mpr hf)
    refine ⟨before.map Prod.snd, f, after.map Prod.snd, ?_, ?_, ?_⟩
    · rw [← Item.map_snd_locatedFrom 0, hsplit, List.map_append, List.map_cons]
    · intro g hg e hge
      obtain ⟨x, hx, rfl⟩ := List.mem_map.mp hg
      rw [hsplit, List.pairwise_append] at hsorted
      have hxf : functionAt? items x.1 = some x.2 :=
        Item.mem_locatedFrom_zero_iff.mp (hsplit ▸ List.mem_append_left _ hx)
      exact hearlier x.1 x.2 (hsorted.2.2 x hx _ List.mem_cons_self) hxf
        (Code.Function.offends_iff.mpr ⟨e, Code.Function.refusedFor_iff_refusedWith.mp hge⟩)
    · exact Code.Function.refusedFor_iff_refusedWith.mpr hrefused
  · rintro ⟨before, f, after, hsplit, hbefore, hrefused⟩
    rw [← Item.map_snd_locatedFrom 0] at hsplit
    obtain ⟨earlier, later, hlocated, rfl, hlater⟩ := List.map_eq_append_iff.mp hsplit
    obtain ⟨x, after, rfl, rfl, rfl⟩ := List.map_eq_cons_iff.mp hlater
    have hx : x ∈ Item.locatedFrom 0 items := by
      rw [hlocated]
      exact List.mem_append_right _ List.mem_cons_self
    refine ⟨x.1, x.2, Item.mem_locatedFrom_zero_iff.mp hx,
      Code.Function.refusedFor_iff_refusedWith.mp hrefused, fun place g hplace hg hoffends => ?_⟩
    obtain ⟨e, he⟩ := Code.Function.offends_iff.mp hoffends
    have hmem := Item.mem_locatedFrom_zero_iff.mpr hg
    rw [hlocated] at hsorted hmem
    rcases List.mem_append.mp hmem with hmem | hmem
    · exact hbefore g (List.mem_map_of_mem hmem) e
        (Code.Function.refusedFor_iff_refusedWith.mpr he)
    · -- From the function on, no place is earlier than its own.
      rcases List.mem_cons.mp hmem with rfl | hmem
      · exact List.lt_irrefl _ hplace
      · have hlater := (List.pairwise_cons.mp (List.pairwise_append.mp hsorted).2.1).1 _ hmem
        exact List.lt_asymm hplace hlater

theorem indexSource_eq_error_iff_firstRefused (h : read source.toList = some items)
    {e : IndexingError} : indexSource read path source = .error e ↔ FirstRefused items e := by
  rw [indexSource_eq_error_iff, firstRefused_iff]
  simp [h]

/-- An index is made where no function offends, and holds the definitions in order. -/
theorem definedInOrder_of_indexSource (h : read source.toList = some items)
    {index : SourceIndex} (hindex : indexSource read path source = .ok index) :
    (∀ place f, functionAt? items place = some f → ¬ f.Offends) ∧ index.path = path ∧
      DefinedInOrder source.toList items index.stepDefinitions := by
  obtain ⟨items', os, hitems, hos, rfl⟩ := indexSource_eq_ok_iff.mp hindex
  obtain rfl : items = items' := Option.some.inj (h.symm.trans hitems)
  refine ⟨fun place f hf hoffends => ?_, rfl, definedInOrder_of_forall₂ hos⟩
  obtain ⟨e, he⟩ := Code.Function.offends_iff.mp hoffends
  obtain ⟨o, -, ho⟩ := exists_partner hos (Item.mem_functionsOfAll_iff.mpr ⟨place, hf⟩)
  rw [← Code.Function.refusedFor_iff_refusedWith, ← Code.Function.definition_eq_error_iff,
    ho] at he
  cases he

/-- **The index of a source** whose items are known has one definition of each function that has one
step attribute, in the order of the functions and with the modules around them. It is made unless a
function offends, and the first that does decides on the error. Where the items are read from the
trees of the source, all these functions are declared by the trees as items of the source or of its
modules. -/
theorem indexSource_of_items (h : read source.toList = some items) :
    (∀ index, indexSource read path source = .ok index ↔
      (∀ place f, functionAt? items place = some f → ¬ f.Offends) ∧ index.path = path ∧
        DefinedInOrder source.toList items index.stepDefinitions) ∧
    ((∃ e, indexSource read path source = .error e) ↔
      ∃ place f, functionAt? items place = some f ∧ f.Offends) ∧
    (∀ e, indexSource read path source = .error e ↔ FirstRefused items e) ∧
    (Item.ofSource? source.toList = some items → ∀ place f, functionAt? items place = some f →
      ∃ ts, Tree.ofSource? (sourceText source.toList) = some ts ∧
        Declares f.name f.source ts f.modulePath) := by
  have herror : ∀ e, indexSource read path source = .error e ↔ FirstRefused items e := fun e =>
    indexSource_eq_error_iff_firstRefused h
  have hfails : (∃ e, indexSource read path source = .error e) ↔
      ∃ place f, functionAt? items place = some f ∧ f.Offends := by
    constructor
    · rintro ⟨e, he⟩
      obtain ⟨place, f, hf, hrefused, -⟩ := (herror e).mp he
      exact ⟨place, f, hf, Code.Function.offends_iff.mpr ⟨e, hrefused⟩⟩
    · rintro ⟨place, f, hf, hoffends⟩
      cases hindex : indexSource read path source with
      | error e => exact ⟨e, rfl⟩
      | ok index => exact absurd hoffends ((definedInOrder_of_indexSource h hindex).1 place f hf)
  refine ⟨fun index => ⟨definedInOrder_of_indexSource h, ?_⟩, hfails, herror,
    fun hitems place f hf => Code.declares_of_functionAt? hitems hf⟩
  rintro ⟨hnone, hpath, hdefined⟩
  cases hindex : indexSource read path source with
  | error e =>
    obtain ⟨place, f, hf, hoffends⟩ := hfails.mp ⟨e, hindex⟩
    exact absurd hoffends (hnone place f hf)
  | ok index' =>
    obtain ⟨-, hpath', hdefined'⟩ := definedInOrder_of_indexSource h hindex
    obtain ⟨p, ds⟩ := index
    obtain ⟨p', ds'⟩ := index'
    dsimp only at hpath hpath' hdefined hdefined'
    rw [hpath, hpath', hdefined.unique hdefined']

/-- Steps in nested modules, between others that are no items of modules. -/
def nestedSteps : String :=
  "mod a \x7b\nmod b \x7b #[given(\"x\")] fn first() \x7b\x7d \x7d\n" ++
  "#[when] fn second() \x7b #[then] fn local() \x7b\x7d \x7d\n\x7d\nmod c;\n" ++
  "impl T \x7b #[given] fn method() \x7b\x7d \x7d\n#[m::then = \"y\"]\nfn third() \x7b\x7d"

/-- Steps of which the second and the third are at fault. -/
def faultySteps : String :=
  "mod a \x7b #[given] fn first() \x7b\x7d #[when(3)] #[then] fn second() \x7b\x7d \x7d\n" ++
  "#[given(3)] fn third() \x7b\x7d"

/-- The items of modules are indexed in order, and the first of two faults is reported: a second
attribute, and not the arguments of the first one. -/
theorem nested_steps_indexed :
    (∃ items index, Item.ofSource? nestedSteps.toList = some items ∧
      indexSource Item.ofSource? (.ofString "steps.rs") nestedSteps = .ok index ∧
      index.stepDefinitions.map (fun d => d.function) =
        [⟨["a", "b"], "first"⟩, ⟨["a"], "second"⟩, ⟨[], "third"⟩] ∧
      DefinedInOrder nestedSteps.toList items index.stepDefinitions) ∧
    ∃ items, Item.ofSource? faultySteps.toList = some items ∧
      FirstRefused items (.multipleAttributes "second") := by
  have hnested : indexSource Item.ofSource? (.ofString "steps.rs") nestedSteps =
      .ok ⟨.ofString "steps.rs", [⟨.given, "x", false, ⟨["a", "b"], "first"⟩, 2⟩,
        ⟨.when, "second", true, ⟨["a"], "second"⟩, 3⟩,
        ⟨.then, "y", false, ⟨[], "third"⟩, 8⟩]⟩ := by decide +kernel
  have hfaulty : indexSource Item.ofSource? (.ofString "steps.rs") faultySteps =
      .error (.multipleAttributes "second") := by decide +kernel
  refine ⟨?_, ?_⟩
  · obtain ⟨items, -, hitems, -⟩ := indexSource_eq_ok_iff.mp hnested
    exact ⟨items, _, hitems, hnested, rfl, (((indexSource_of_items hitems).1 _).mp hnested).2.2⟩
  · rcases indexSource_eq_error_iff.mp hfaulty with ⟨-, he⟩ | ⟨items, -, -, -, hitems, -⟩
    · cases he
    · exact ⟨items, hitems, ((indexSource_of_items hitems).2.2.1 _).mp hfaulty⟩

end FeatureDocs
