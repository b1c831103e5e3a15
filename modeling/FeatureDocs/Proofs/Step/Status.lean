import FeatureDocs.Pattern.Footprint
import FeatureDocs.Proofs.Document.Status
import FeatureDocs.Proofs.Step.Registration

/-!
# Which lines are implemented

Whether a registry matches a line depends on nothing but the set of the definitions that were given
to it: some one of them has to implement the line. Their order and number decide only on which of
them is reported. So the status of a document is monotone in the definitions, and the same
definitions in another order leave the same document, but for the definitions that it reports.

## Main definitions

* `StepDefinition.Implements`: a definition implements a step line
* `stepDefinitionsOf`: the definitions that sources hold

## Main results

* `Registry.isMatched_lookup_iff`: a line is matched if a given definition implements it
-/

namespace FeatureDocs

/-- A definition implements a step line: its pattern compiles and matches the text of the line, and
the keyword of the line is its own, a conjunction, or none. -/
def StepDefinition.Implements (fits : SizeLimit) (d : StepDefinition) (line : String) : Prop :=
  ∃ p values, Pattern.compile fits d.pattern = .ok p ∧
    p.captures? (String.ofList (StepLine.ofString line).text) = some values ∧
    (StepLine.ofString line).keyword ∈ [none, some .and, some .but, some d.keyword]

/-- The step definitions that sources hold, in order. -/
def stepDefinitionsOf (indexes : List SourceIndex) : List StepDefinition :=
  indexes.flatMap SourceIndex.stepDefinitions

theorem map_snd_definitionsGiven (indexes : List SourceIndex) :
    (definitionsGiven indexes).map Prod.snd = stepDefinitionsOf indexes := by
  simp [definitionsGiven, stepDefinitionsOf, List.map_flatMap, Function.comp_def]

namespace Registry

variable {fits : SizeLimit} {r s : Registry} {given given' : List (Path × StepDefinition)}
  {errors errors' : List CompileError}

/-- The registered definitions are those given whose patterns compile. -/
theorem Holds.exists_iff (h : r.Holds fits given errors) {d : StepDefinition} {p : Pattern} :
    (∃ c ∈ r.definitions, c.definition = d ∧ c.compiled = p) ↔
      d ∈ given.map Prod.snd ∧ Pattern.compile fits d.pattern = .ok p := by
  constructor
  · rintro ⟨c, hc, rfl, rfl⟩
    have hmem : (c.sourcePath, c.definition) ∈ given.filter fun g => g.2.compiles fits :=
      h.definitions_eq ▸ List.mem_map_of_mem hc
    exact ⟨List.mem_map_of_mem (List.mem_filter.mp hmem).1, h.compiled_eq c hc⟩
  · rintro ⟨hd, hp⟩
    obtain ⟨g, hg, rfl⟩ := List.mem_map.mp hd
    have hcompiles : g.2.compiles fits = true := by rw [StepDefinition.compiles, hp]; rfl
    have hmem : g ∈ r.definitions.map fun c => (c.sourcePath, c.definition) :=
      h.definitions_eq ▸ List.mem_filter.mpr ⟨hg, hcompiles⟩
    obtain ⟨c, hc, rfl⟩ := List.mem_map.mp hmem
    exact ⟨c, hc, rfl, Except.ok.inj ((h.compiled_eq c hc).symm.trans hp)⟩

/-- **A line is matched if a given definition implements it**, and only then. -/
theorem Holds.isMatched_lookup_iff (h : r.Holds fits given errors) (line : String) :
    (r.lookup line).isMatched = true ↔ ∃ d ∈ given.map Prod.snd, d.Implements fits line := by
  -- A line is matched exactly if some registered definition answers it.
  have hanswers : (r.lookup line).isMatched = true ↔
      ∃ c ∈ r.definitions, ∃ values, c.Answers line values := by
    rcases r.lookup_eq_unmatched_or_matched line with hl | ⟨f, hl⟩
    · have hnone := lookup_eq_unmatched_iff.mp hl
      simp only [hl, StepMatch.isMatched_unmatched, Bool.false_eq_true, false_iff]
      rintro ⟨c, hc, values, hvalues⟩
      exact hnone c hc values hvalues
    · obtain ⟨before, c, after, values, hd, hc, -⟩ := lookup_eq_matched_iff.mp hl
      simp only [hl, StepMatch.isMatched_matched, true_iff]
      exact ⟨c, by simp [hd], values, hc⟩
  rw [hanswers]
  constructor
  · rintro ⟨c, hc, values, hkeyword, hvalues⟩
    obtain ⟨hd, hp⟩ := h.exists_iff.mp ⟨c, hc, rfl, rfl⟩
    exact ⟨c.definition, hd, c.compiled, values, hp, hvalues, hkeyword⟩
  · rintro ⟨d, hd, p, values, hp, hvalues, hkeyword⟩
    obtain ⟨c, hc, rfl, rfl⟩ := h.exists_iff.mpr ⟨hd, hp⟩
    exact ⟨c, hc, values, hkeyword, hvalues⟩

/-- More definitions match more lines. -/
theorem Holds.isMatched_lookup_mono (h : r.Holds fits given errors)
    (h' : s.Holds fits given' errors') (hsub : given.map Prod.snd ⊆ given'.map Prod.snd)
    (line : String) (hr : (r.lookup line).isMatched = true) : (s.lookup line).isMatched = true := by
  obtain ⟨d, hd, himplements⟩ := (h.isMatched_lookup_iff line).mp hr
  exact (h'.isMatched_lookup_iff line).mpr ⟨d, hsub hd, himplements⟩

/-- A registry answers all steps, so it never refuses a document. -/
theorem resolve_matcher (r : Registry) (d : Document) (addTags : Bool) :
    d.resolve r.matcher addTags = ⟨.ok (d.coveredBy r.lookup), d.matchedBy r.lookup addTags⟩ :=
  Document.resolve_of_answers (fun _ _ _ _ => rfl) addTags

/-! ## Documents -/

/-- **The status of a document follows the definitions that are given.**

Take two registries, each made of sources. If each definition of the first sources is among those
of the second, in any order and number, then each line that the first registry matches is matched
by the second. Neither of them refuses a document, and the blocks and documents that are implemented
under the first are so under the second. If both are given the same definitions, in whatever order
and number, they match the same lines, and what they make of a document is the same but for the
definitions that are reported. -/
theorem status_follows_definitions (fits : SizeLimit) (indexes indexes' : List SourceIndex)
    (addTags : Bool) :
    let r := (empty.registerAll fits indexes).1
    let s := (empty.registerAll fits indexes').1
    (stepDefinitionsOf indexes ⊆ stepDefinitionsOf indexes' →
      (∀ line, (r.lookup line).isMatched = true → (s.lookup line).isMatched = true) ∧
      ∀ d : Document, ∃ flag flag' d₁ d₂,
        d.resolve r.matcher addTags = ⟨.ok flag, d₁⟩ ∧
        d.resolve s.matcher addTags = ⟨.ok flag', d₂⟩ ∧
        (flag = true → flag' = true) ∧ (d₁.implemented = true → d₂.implemented = true) ∧
        List.Forall₂ (fun c c' : Scenario => c.implemented = true → c'.implemented = true)
          d₁.children d₂.children) ∧
    ((∀ d, d ∈ stepDefinitionsOf indexes ↔ d ∈ stepDefinitionsOf indexes') →
      (∀ line, (r.lookup line).isMatched = (s.lookup line).isMatched) ∧
      ∀ d : Document, ∃ flag d₁ d₂,
        d.resolve r.matcher addTags = ⟨.ok flag, d₁⟩ ∧
        d.resolve s.matcher addTags = ⟨.ok flag, d₂⟩ ∧ d₁.SameStatus d₂) := by
  intro r s
  have hr := holds_registerAll fits indexes
  have hs := holds_registerAll fits indexes'
  simp only [← map_snd_definitionsGiven]
  constructor
  · intro hsub
    have hmore := hr.isMatched_lookup_mono hs hsub
    refine ⟨hmore, fun d => ⟨_, _, _, _, resolve_matcher r d addTags, resolve_matcher s d addTags,
      Document.coveredBy_mono hmore, Document.coveredBy_mono hmore,
      Document.implemented_children_mono hmore d addTags⟩⟩
  · intro hmem
    -- Each registry matches what the other does.
    have hsame : ∀ line, (r.lookup line).isMatched = (s.lookup line).isMatched := fun line =>
      Bool.eq_iff_iff.mpr ⟨hr.isMatched_lookup_mono hs (fun d => (hmem d).mp) line,
        hs.isMatched_lookup_mono hr (fun d => (hmem d).mpr) line⟩
    refine ⟨hsame, fun d => ⟨d.coveredBy r.lookup, _, _, resolve_matcher r d addTags, ?_,
      d.sameStatus_matchedBy hsame addTags⟩⟩
    rw [resolve_matcher, d.coveredBy_congr hsame]

/-- Two sources whose definitions match one text. -/
def rivalSources : List SourceIndex :=
  [⟨.ofString "a.rs", [⟨.given, "I \x7baction\x7d", false, ⟨[], "act"⟩, 2⟩]⟩,
    ⟨.ofString "b.rs", [⟨.given, "I wait", false, ⟨[], "wait"⟩, 2⟩]⟩]

/-- Another order of the sources matches the same line, but reports another definition. -/
theorem rival_sources_reversed :
    let r := (empty.registerAll .estimated rivalSources).1
    let s := (empty.registerAll .estimated rivalSources.reverse).1
    stepDefinitionsOf rivalSources ⊆ stepDefinitionsOf rivalSources.reverse ∧
      (∀ d, d ∈ stepDefinitionsOf rivalSources ↔ d ∈ stepDefinitionsOf rivalSources.reverse) ∧
      (s.lookup "Given I wait").isMatched = true ∧
      (r.lookup "Given I wait").isMatched = (s.lookup "Given I wait").isMatched ∧
      r.lookup "Given I wait" ≠ s.lookup "Given I wait" := by
  have hmem : ∀ d,
      d ∈ stepDefinitionsOf rivalSources ↔ d ∈ stepDefinitionsOf rivalSources.reverse := fun d => by
    simp [stepDefinitionsOf, rivalSources, or_comm]
  have hsub : stepDefinitionsOf rivalSources ⊆ stepDefinitionsOf rivalSources.reverse :=
    fun d => (hmem d).mp
  have hmatched :
      ((empty.registerAll .estimated rivalSources).1.lookup "Given I wait").isMatched = true := by
    decide +kernel
  have hfollows := status_follows_definitions .estimated rivalSources rivalSources.reverse true
  exact ⟨hsub, hmem, (hfollows.1 hsub).1 _ hmatched, (hfollows.2 hmem).1 _, by decide +kernel⟩

end Registry

end FeatureDocs
