import FeatureDocs.Proofs.Pattern.Filling
import FeatureDocs.Proofs.Pattern.Reader
import FeatureDocs.Proofs.Step.Registration

/-!
# The values of placeholders

What a registry reports as the values of a step are fillings of the placeholders of the pattern:
put back in their places they give the text of the step, and there is one for each placeholder.
Every text that can be made this way is matched. The expression that is compiled for a pattern says
the same, read as it is written.

## Main results

* `Pattern.compile_eq_ok_iff`: what a compiled pattern is
* `Pattern.captures_fill_placeholders`: patterns match their fillings, and find them again
-/

namespace FeatureDocs

namespace Pattern

variable {fits : SizeLimit}

theorem compile_eq_ok_iff {pattern : String} {p : Pattern} :
    Pattern.compile fits pattern = .ok p ↔
      Pattern.parse pattern = .ok p ∧ fits p = true := by
  unfold compile
  cases Pattern.parse pattern with
  | error e => simp [bind, Except.bind]
  | ok q =>
    simp only [bind, Except.bind, Except.ok.injEq]
    split
    · rename_i hq
      simp only [pure, Except.pure, Except.ok.injEq]
      exact ⟨fun h => ⟨h, h ▸ hq⟩, fun h => h.1⟩
    · rename_i hq
      constructor
      · intro h
        simp [throw, throwThe, MonadExceptOf.throw] at h
      · rintro ⟨rfl, hp⟩
        exact absurd hp hq

theorem compile_of_large {pattern : String} {p : Pattern} (h : Pattern.parse pattern = .ok p)
    (hlarge : fits p = false) : Pattern.compile fits pattern = .error .tooLarge := by
  rw [compile, h]
  simp [bind, Except.bind, hlarge, throw, throwThe, MonadExceptOf.throw]

/-- A text is matched when some values make it from the pattern, and only then. -/
theorem isSome_captures?_iff {p : Pattern} {text : String} :
    (p.captures? text).isSome = true ↔ ∃ values, p.Fills values text := by
  constructor
  · intro h
    obtain ⟨values, hv⟩ := Option.isSome_iff_exists.mp h
    exact ⟨values, fills_of_captures? hv⟩
  · rintro ⟨values, hv⟩
    exact isSome_captures?_of_fills hv

end Pattern

namespace Registry

/-- What is found is a registered definition whose compiled pattern has matched. -/
theorem captures?_of_find {r : Registry} {keyword : Option Keyword} {text : String}
    {c : CompiledDefinition} {values : List String} (h : r.find keyword text = some (c, values)) :
    c ∈ r.definitions ∧ c.compiled.captures? text = some values := by
  obtain ⟨d, hd, hfound⟩ := List.exists_of_findSome?_eq_some h
  split at hfound
  · obtain ⟨vs, hvs, heq⟩ := Option.map_eq_some_iff.mp hfound
    obtain ⟨rfl, rfl⟩ := Prod.mk.inj heq
    exact ⟨hd, hvs⟩
  · simp at hfound

variable {fits : SizeLimit}

/-- What is found in a registry that has been filled is what the pattern of the definition
captures. -/
theorem captures?_of_find_registerAll {indexes : List SourceIndex} {keyword : Option Keyword}
    {text : String} {c : CompiledDefinition} {values : List String} {p : Pattern}
    (hp : Pattern.parse c.definition.pattern = .ok p)
    (h : (empty.registerAll fits indexes).1.find keyword text = some (c, values)) :
    p.captures? text = some values := by
  obtain ⟨hc, hcaptures⟩ := captures?_of_find h
  -- The compiled pattern is what the pattern of the definition reads as.
  have hcompiled := (holds_registerAll fits indexes).compiled_eq c hc
  have heq : c.compiled = p :=
    Except.ok.inj ((Pattern.compile_eq_ok_iff.mp hcompiled).1.symm.trans hp)
  exact heq ▸ hcaptures

/-- The values that a registry finds fill the pattern of the definition. -/
theorem fills_of_find {indexes : List SourceIndex} {keyword : Option Keyword} {text : String}
    {c : CompiledDefinition} {values : List String} {p : Pattern}
    (hp : Pattern.parse c.definition.pattern = .ok p)
    (h : (empty.registerAll fits indexes).1.find keyword text = some (c, values)) :
    p.Fills values text :=
  Pattern.fills_of_captures? (captures?_of_find_registerAll hp h)

end Registry

/-- **Patterns match their fillings, and captures fill them.**

A pattern that is accepted consists of literal texts and placeholders in turn, which is what its
tokens stand for. The expression in writing has a group for each placeholder and no other, and
matches as the pattern does, whatever characters the literals hold. A text is matched if and only if
it is made of the literals with words of the hints between them. What a registry finds is such a
filling: a value for each placeholder, none of them empty. -/
theorem Pattern.captures_fill_placeholders {pattern : String} {p : Pattern}
    (h : Pattern.parse pattern = .ok p) :
    (∃ tokens, Scan pattern.toList tokens ∧ strayDepth 0 tokens = some 0 ∧
        p.pieces = tokens.map PatternToken.piece) ∧
      p.literals.length = p.hints.length + 1 ∧
      (∃ e, Expression.read p.source = some e ∧ e.groups = p.hints.length ∧
        ∀ text, e.captures? text = p.captures? text) ∧
      (∀ text, (p.captures? text).isSome = true ↔ ∃ values, p.Fills values text) ∧
      ∀ fits indexes keyword text c values,
        (Registry.empty.registerAll fits indexes).1.find keyword text = some (c, values) →
        c.definition.pattern = pattern →
        values.length = p.hints.length ∧ (∀ value ∈ values, value ≠ "") ∧ p.Fills values text := by
  refine ⟨parse_eq_ok_iff.mp h, length_literalsOf p.pieces,
    ⟨p.toExpression, p.read_source, p.groups_toExpression, p.captures?_toExpression⟩,
    fun text => isSome_captures?_iff, ?_⟩
  rintro fits indexes keyword text c values hfind rfl
  have hfills := Registry.fills_of_find h hfind
  exact ⟨hfills.length_eq, fun value hv => hfills.ne_empty hv, hfills⟩

/-- A pattern with characters that have a meaning in regular expressions, and with a doubled
brace. -/
theorem Pattern.fills_quoted_literals :
    Pattern.parse "(.\x7bn:u8\x7d\x7b\x7b" =
        .ok ⟨[.literal '(', .literal '.', .placeholder (some "u8"), .literal '{']⟩ ∧
      ∃ values, Pattern.Fills
        ⟨[.literal '(', .literal '.', .placeholder (some "u8"), .literal '{']⟩ values
        "(.42\x7b" := by
  have hname : IsPlaceholderName ['n'] := ⟨by decide, List.forall_mem_singleton.mpr (by decide)⟩
  have hhint : IsHint ['u', '8'] := ⟨List.cons_ne_nil _ _,
    List.forall_mem_cons.mpr ⟨by decide, List.forall_mem_singleton.mpr (by decide)⟩⟩
  have hscan : Scan "(.\x7bn:u8\x7d\x7b\x7b".toList
      [.plain '(', .plain '.', .placeholder ['n'] (some ['u', '8']), .doubleOpening] :=
    .plain (by decide) (by decide) (by decide) <| .plain (by decide) (by decide) (by decide) <|
      .hinted hname hhint <| .doubleOpening .nil
  have hparse : Pattern.parse "(.\x7bn:u8\x7d\x7b\x7b" =
      .ok ⟨[.literal '(', .literal '.', .placeholder (some "u8"), .literal '{']⟩ :=
    parse_eq_ok_iff.mpr ⟨_, hscan, rfl, rfl⟩
  exact ⟨hparse, ((captures_fill_placeholders hparse).2.2.2.1 "(.42\x7b").mp (by decide +kernel)⟩

end FeatureDocs
