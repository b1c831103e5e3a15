import FeatureDocs.Proofs.Step.Line
import FeatureDocs.Step.Registry
import Mathlib.Data.List.Forall2

/-!
# Registration

Sources are registered one after another. A registry then holds the definitions whose patterns
compile, in the order in which they came, and all others have been reported, each with the reason.
A step line is answered by the earliest definition that is eligible for its keyword and matches
its text, so what has been found once is found whatever is registered later.

## Main definitions

* `Registry.registerAll`: the registry of several sources, with all errors
* `Registry.Holds`: a registry and a list of errors share the given definitions between them
* `CompiledDefinition.Answers`: a definition answers a step line with the values of its
  placeholders

## Main results

* `Registry.Holds.register`, `Registry.holds_registerAll`: registration shares out the definitions
* `Registry.lookup_eq_matched_iff`: the earliest definition that answers is found
-/

namespace FeatureDocs

/-- The definitions that sources hold, in order, each with the path of its source. -/
def definitionsGiven (indexes : List SourceIndex) : List (Path × StepDefinition) :=
  indexes.flatMap fun index => index.stepDefinitions.map fun d => (index.path, d)

variable (fits : SizeLimit)

/-- The pattern of a definition compiles. -/
def StepDefinition.compiles (d : StepDefinition) : Bool := (Pattern.compile fits d.pattern).isOk

/-- An error reports a definition, with the reason why its pattern does not compile. -/
def CompileError.Reports (e : CompileError) (given : Path × StepDefinition) : Prop :=
  ∃ cause, Pattern.compile fits given.2.pattern = .error cause ∧
    e = ⟨given.1, given.2.function, given.2.keyword, given.2.pattern, cause⟩

/-- A definition answers a step line: it is eligible for the keyword of the line, or the line has a
conjunction or no keyword, and its pattern matches the text with the values. -/
def CompiledDefinition.Answers (c : CompiledDefinition) (line : String) (values : List String) :
    Prop :=
  ((StepLine.ofString line).keyword ∈ [none, some .and, some .but, some c.definition.keyword]) ∧
    c.compiled.captures? (String.ofList (StepLine.ofString line).text) = some values

/-- A line with a keyword. -/
theorem CompiledDefinition.answers_keyword_iff {c : CompiledDefinition} {values : List String}
    (k : Keyword) (t : String) :
    c.Answers (k.name ++ " " ++ t) values ↔
      (k.isConjunction = true ∨ k = c.definition.keyword) ∧
        c.compiled.captures? (String.ofList (Text.trimStart t.toList)) = some values := by
  have hkeyword : some k ∈ [none, some .and, some .but, some c.definition.keyword] ↔
      k.isConjunction = true ∨ k = c.definition.keyword := by
    cases k <;> simp [Keyword.isConjunction]
  rw [Answers, StepLine.ofString_keyword, hkeyword]

namespace Registry

/-- The registry with the definitions of several sources, and all errors in order. -/
def registerAll (r : Registry) : List SourceIndex → Registry × List CompileError
  | [] => (r, [])
  | index :: indexes =>
    let (r, errors) := r.register fits index
    let (r, later) := r.registerAll indexes
    (r, errors ++ later)

/-- **What has been given is registered or reported**: a registry holds the definitions that
compile, in order and compiled, and the errors report the others, in order. -/
structure Holds (r : Registry) (given : List (Path × StepDefinition))
    (errors : List CompileError) : Prop where
  definitions_eq : r.definitions.map (fun c => (c.sourcePath, c.definition)) =
    given.filter fun g => g.2.compiles fits
  compiled_eq : ∀ c ∈ r.definitions, Pattern.compile fits c.definition.pattern = .ok c.compiled
  reports : List.Forall₂ (fun g e => CompileError.Reports fits e g)
    (given.filter fun g => !g.2.compiles fits) errors

/-! ## One source -/

variable {fits}

/-- A definition either compiles, and is registered as it was given, or is reported. -/
theorem compile_cases (fits : SizeLimit) (path : Path) (d : StepDefinition) :
    (∃ p, Pattern.compile fits d.pattern = .ok p ∧ d.compiles fits = true ∧
        d.compile fits path = .ok ⟨d, p, path⟩) ∨
      ∃ cause, Pattern.compile fits d.pattern = .error cause ∧ d.compiles fits = false ∧
        d.compile fits path = .error ⟨path, d.function, d.keyword, d.pattern, cause⟩ := by
  unfold StepDefinition.compiles StepDefinition.compile
  cases Pattern.compile fits d.pattern with
  | ok p => exact Or.inl ⟨p, rfl, rfl, rfl⟩
  | error cause => exact Or.inr ⟨cause, rfl, rfl, rfl⟩

theorem map_compiled (index : SourceIndex) :
    (compiled fits index).map (fun c => (c.sourcePath, c.definition)) =
      (index.stepDefinitions.map fun d => (index.path, d)).filter fun g => g.2.compiles fits := by
  unfold compiled
  induction index.stepDefinitions with
  | nil => rfl
  | cons d ds ih =>
    rw [List.filterMap_cons, List.map_cons, List.filter_cons]
    obtain ⟨p, -, hd, hc⟩ | ⟨cause, -, hd, hc⟩ := compile_cases fits index.path d
    · have ho : (d.compile fits index.path).toOption = some ⟨d, p, index.path⟩ := by rw [hc]; rfl
      simp only [ho, hd, List.map_cons, ih, if_true]
    · have ho : (d.compile fits index.path).toOption = none := by rw [hc]; rfl
      simp only [ho, hd, ih, Bool.false_eq_true, if_false]

theorem compile_of_mem_compiled {index : SourceIndex} {c : CompiledDefinition}
    (h : c ∈ compiled fits index) : Pattern.compile fits c.definition.pattern = .ok c.compiled := by
  obtain ⟨d, -, hd⟩ := List.mem_filterMap.mp h
  obtain ⟨p, hp, -, hc⟩ | ⟨cause, -, -, hc⟩ := compile_cases fits index.path d
  · rw [hc] at hd
    obtain rfl := Option.some.inj hd
    exact hp
  · simp [hc, Except.toOption] at hd

theorem reports_skipped (index : SourceIndex) :
    List.Forall₂ (fun g e => CompileError.Reports fits e g)
      ((index.stepDefinitions.map fun d => (index.path, d)).filter fun g => !g.2.compiles fits)
      (skipped fits index) := by
  unfold skipped
  induction index.stepDefinitions with
  | nil => exact .nil
  | cons d ds ih =>
    rw [List.filterMap_cons, List.map_cons, List.filter_cons]
    obtain ⟨p, -, hd, hc⟩ | ⟨cause, hp, hd, hc⟩ := compile_cases fits index.path d
    · simp only [hc, hd, Bool.not_true, Bool.false_eq_true, if_false]
      exact ih
    · simp only [hc, hd, Bool.not_false, if_true]
      exact .cons ⟨cause, hp, rfl⟩ ih

/-! ## One source after another -/

theorem holds_empty : empty.Holds fits [] [] :=
  ⟨rfl, fun _ h => absurd h List.not_mem_nil, .nil⟩

/-- One more source. -/
theorem Holds.register {r : Registry} {given : List (Path × StepDefinition)}
    {errors : List CompileError} (h : r.Holds fits given errors) (index : SourceIndex) :
    (r.register fits index).1.Holds fits
      (given ++ index.stepDefinitions.map fun d => (index.path, d))
      (errors ++ (r.register fits index).2) where
  definitions_eq := by
    rw [Registry.register, List.map_append, List.filter_append, h.definitions_eq, map_compiled]
  compiled_eq c hc := by
    rcases List.mem_append.mp hc with hc | hc
    · exact h.compiled_eq c hc
    · exact compile_of_mem_compiled hc
  reports := by
    rw [List.filter_append]
    exact List.rel_append h.reports (reports_skipped index)

/-- Several more sources. -/
theorem Holds.registerAll {r : Registry} {given : List (Path × StepDefinition)}
    {errors : List CompileError} (h : r.Holds fits given errors) (indexes : List SourceIndex) :
    (r.registerAll fits indexes).1.Holds fits (given ++ definitionsGiven indexes)
      (errors ++ (r.registerAll fits indexes).2) := by
  -- Each source is shared out on top of what the registry holds already.
  induction indexes generalizing r given errors with
  | nil => simpa [Registry.registerAll, definitionsGiven] using h
  | cons index indexes ih =>
    simpa [Registry.registerAll, definitionsGiven] using ih (h.register index)

theorem registerAll_append (r : Registry) (indexes later : List SourceIndex) :
    (r.registerAll fits (indexes ++ later)).1 =
      ((r.registerAll fits indexes).1.registerAll fits later).1 := by
  induction indexes generalizing r with
  | nil => rfl
  | cons index indexes ih => exact ih (r.register fits index).1

/-- Registration shares out the definitions of all sources. -/
theorem holds_registerAll (fits : SizeLimit) (indexes : List SourceIndex) :
    (empty.registerAll fits indexes).1.Holds fits (definitionsGiven indexes)
      (empty.registerAll fits indexes).2 :=
  holds_empty.registerAll indexes

/-- Nothing is lost: what is registered and what is reported make up what has been given. -/
theorem Holds.length_add_length {r : Registry} {given : List (Path × StepDefinition)}
    {errors : List CompileError} (h : r.Holds fits given errors) :
    r.definitions.length + errors.length = given.length := by
  -- Both parts have the lengths of complementary selections.
  have hd := congrArg List.length h.definitions_eq
  rw [List.length_map] at hd
  rw [hd, ← h.reports.length_eq]
  exact (List.length_eq_length_filter_add _).symm

/-- Registered definitions stay in front of those that come later. -/
theorem definitions_registerAll (r : Registry) (indexes : List SourceIndex) :
    ∃ later, (r.registerAll fits indexes).1.definitions = r.definitions ++ later := by
  induction indexes generalizing r with
  | nil => exact ⟨[], (List.append_nil _).symm⟩
  | cons index indexes ih =>
    obtain ⟨later, hl⟩ := ih (r.register fits index).1
    exact ⟨compiled fits index ++ later, by simpa [registerAll, register] using hl⟩

/-! ## Lookup -/

theorem isEligible_iff {c : CompiledDefinition} {keyword : Option Keyword} :
    c.isEligible keyword = true ↔
      keyword ∈ [none, some .and, some .but, some c.definition.keyword] := by
  cases keyword with
  | none => simp [CompiledDefinition.isEligible]
  | some k =>
    simp only [CompiledDefinition.isEligible]
    -- There are five keywords on either side.
    generalize c.definition.keyword = own
    cases k <;> cases own <;> decide

/-- What a lookup makes of one definition. -/
theorem find_step_eq_some_iff {line : String} {c d : CompiledDefinition} {values : List String} :
    ((if c.isEligible (StepLine.ofString line).keyword then
        (c.compiled.captures? (String.ofList (StepLine.ofString line).text)).map fun vs => (c, vs)
      else none) = some (d, values)) ↔ c = d ∧ c.Answers line values := by
  rw [CompiledDefinition.Answers, ← isEligible_iff]
  split
  · rename_i h
    simp only [Option.map_eq_some_iff, Prod.mk.injEq, h, true_and]
    constructor
    · rintro ⟨vs, hvs, rfl, rfl⟩
      exact ⟨rfl, hvs⟩
    · rintro ⟨rfl, hvs⟩
      exact ⟨values, hvs, rfl, rfl⟩
  · rename_i h
    simp [h]

theorem find_step_eq_none_iff {line : String} {c : CompiledDefinition} :
    ((if c.isEligible (StepLine.ofString line).keyword then
        (c.compiled.captures? (String.ofList (StepLine.ofString line).text)).map fun vs => (c, vs)
      else none) = none) ↔ ∀ values, ¬ c.Answers line values := by
  rw [Option.eq_none_iff_forall_ne_some]
  constructor
  · intro h values hv
    exact h (c, values) (find_step_eq_some_iff.mpr ⟨rfl, hv⟩)
  · rintro h ⟨d, values⟩ hv
    exact h values (find_step_eq_some_iff.mp hv).2

/-- A registry sets the flag where it names a definition, and only there. -/
theorem lookup_eq_unmatched_or_matched (r : Registry) (line : String) :
    r.lookup line = .unmatched ∨ ∃ f, r.lookup line = .matched f := by
  unfold lookup
  dsimp only
  split
  · exact Or.inl rfl
  · exact Or.inr ⟨_, rfl⟩

/-- What is found for the keyword and the text of a line: the earliest definition that answers. -/
theorem find_eq_some_iff {r : Registry} {line : String} {c : CompiledDefinition}
    {values : List String} :
    r.find (StepLine.ofString line).keyword (String.ofList (StepLine.ofString line).text) =
        some (c, values) ↔
      ∃ before after, r.definitions = before ++ c :: after ∧ c.Answers line values ∧
        ∀ b ∈ before, ∀ vs, ¬ b.Answers line vs := by
  unfold find
  rw [List.findSome?_eq_some_iff]
  simp only [find_step_eq_some_iff, find_step_eq_none_iff]
  constructor
  · rintro ⟨before, d, after, hd, ⟨rfl, hc⟩, hb⟩
    exact ⟨before, after, hd, hc, hb⟩
  · rintro ⟨before, after, hd, hc, hb⟩
    exact ⟨before, c, after, hd, ⟨rfl, hc⟩, hb⟩

/-- **A lookup finds the earliest definition that answers the line**, and reports it as it was
given. -/
theorem lookup_eq_matched_iff {r : Registry} {line : String} {f : FoundDefinition} :
    r.lookup line = .matched f ↔
      ∃ before c after values, r.definitions = before ++ c :: after ∧ c.Answers line values ∧
        (∀ b ∈ before, ∀ vs, ¬ b.Answers line vs) ∧ f = c.matched values := by
  unfold lookup
  dsimp only
  constructor
  · intro h
    split at h
    · simp [StepMatch.unmatched, StepMatch.matched] at h
    · rename_i c values hfind
      obtain ⟨before, after, hd, hc, hb⟩ := find_eq_some_iff.mp hfind
      exact ⟨before, c, after, values, hd, hc, hb, (StepMatch.matched_inj.mp h).symm⟩
  · rintro ⟨before, c, after, values, hd, hc, hb, rfl⟩
    rw [find_eq_some_iff.mpr ⟨before, after, hd, hc, hb⟩]

/-- A line is unmatched when no definition answers it, and only then. -/
theorem lookup_eq_unmatched_iff {r : Registry} {line : String} :
    r.lookup line = .unmatched ↔ ∀ c ∈ r.definitions, ∀ values, ¬ c.Answers line values := by
  -- A lookup is unmatched where the search finds nothing.
  have hfind : r.lookup line = .unmatched ↔
      r.find (StepLine.ofString line).keyword (String.ofList (StepLine.ofString line).text) =
        none := by
    unfold lookup
    dsimp only
    split <;> simp_all [StepMatch.unmatched, StepMatch.matched]
  rw [hfind, find, List.findSome?_eq_none_iff]
  exact forall₂_congr fun c _ => find_step_eq_none_iff

/-- What has been found is found whatever is registered later. -/
theorem lookup_registerAll {r : Registry} {line : String} {f : FoundDefinition}
    (h : r.lookup line = .matched f) (indexes : List SourceIndex) :
    (r.registerAll fits indexes).1.lookup line = .matched f := by
  obtain ⟨before, c, after, values, hd, hc, hb, rfl⟩ := lookup_eq_matched_iff.mp h
  -- What comes later stands behind the definition that answers.
  obtain ⟨later, hl⟩ := r.definitions_registerAll indexes
  refine lookup_eq_matched_iff.mpr ⟨before, c, after ++ later, values, ?_, hc, hb, rfl⟩
  rw [hl, hd, List.append_assoc, List.cons_append]

/-! ## All sources -/

/-- **Every given definition is registered or reported, and the earliest answers.**

From the empty registry on, the definitions that compile are registered in the order given and all
others are reported in that order. A line is then matched by the earliest registered definition
that answers it, reported as it was given, and by none if none answers. Sources that come later
change nothing for a line that has been matched. -/
theorem earliest_registered_answers (fits : SizeLimit) (indexes : List SourceIndex) :
    let r := (empty.registerAll fits indexes).1
    let errors := (empty.registerAll fits indexes).2
    r.Holds fits (definitionsGiven indexes) errors ∧
      r.definitions.length + errors.length = (definitionsGiven indexes).length ∧
      ∀ line,
        (∀ f, r.lookup line = .matched f ↔
          ∃ before c after values, r.definitions = before ++ c :: after ∧ c.Answers line values ∧
            (∀ b ∈ before, ∀ vs, ¬ b.Answers line vs) ∧
            f = {
              keyword := c.definition.keyword.name
              pattern := c.definition.pattern
              patternInferred := c.definition.patternInferred
              function := c.definition.function.qualified
              sourcePath := c.sourcePath
              line := c.definition.line
              captures := values }) ∧
        (r.lookup line = .unmatched ↔ ∀ c ∈ r.definitions, ∀ values, ¬ c.Answers line values) ∧
        ∀ later, r.lookup line = .unmatched ∨
          (empty.registerAll fits (indexes ++ later)).1.lookup line = r.lookup line := by
  intro r errors
  refine ⟨holds_registerAll fits indexes, (holds_registerAll fits indexes).length_add_length,
    fun line => ⟨fun f => lookup_eq_matched_iff, lookup_eq_unmatched_iff, fun later => ?_⟩⟩
  rw [registerAll_append]
  rcases r.lookup_eq_unmatched_or_matched line with hr | ⟨f, hr⟩
  · exact Or.inl hr
  · rw [hr]
    exact Or.inr (lookup_registerAll hr later)

end Registry

end FeatureDocs
