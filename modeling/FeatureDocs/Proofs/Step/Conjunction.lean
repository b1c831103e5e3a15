import FeatureDocs.Pattern.Footprint
import FeatureDocs.Proofs.Step.Definition
import FeatureDocs.Proofs.Step.Registration

/-!
# Conjunctions

A step line with a conjunction or a bullet may be answered by any definition, one with a primary
keyword only by a definition of that keyword. In a registry that is built from sources every
definition has a primary keyword. So a conjunction finds what the primary keywords find between
them, and of their answers the one that was registered first.

## Main definitions

* `Registry.Built`: registries that are built from sources
* `Registry.ReportsAt`: the definition at some position is the one that is reported for a line

## Main results

* `Registry.conjunctions_search_union`: what a conjunction finds
-/

namespace FeatureDocs

/-- The keywords that say what a step is for. -/
def Keyword.primary : List Keyword := [given, when, .then]

theorem Keyword.mem_primary_iff {k : Keyword} : k ∈ primary ↔ k.isConjunction = false := by
  cases k <;> decide

namespace Registry

/-- Registries that are built from sources: one source after another is indexed and registered. -/
inductive Built (read : Code.SourceReader) (fits : SizeLimit) : Registry → Prop where
  | empty : Built read fits empty
  | register {r : Registry} {path : Path} {source : String} {index : SourceIndex} :
      Built read fits r → indexSource read path source = .ok index →
        Built read fits (r.register fits index).1

/-- The definition at a position is the first that answers a line, and is reported for it. -/
def ReportsAt (r : Registry) (line : String) (i : Nat) (f : FoundDefinition) : Prop :=
  ∃ c values, r.definitions[i]? = some c ∧ c.Answers line values ∧ f = c.matched values ∧
    ∀ j < i, ∀ b, r.definitions[j]? = some b → ∀ vs, ¬ b.Answers line vs

variable {read : Code.SourceReader} {fits : SizeLimit} {r : Registry} {line : String}

/-- The definitions of a registry that is built have primary keywords. -/
theorem Built.keyword_mem_primary (h : r.Built read fits) {c : CompiledDefinition}
    (hc : c ∈ r.definitions) : c.definition.keyword ∈ Keyword.primary := by
  induction h with
  | empty => simp [Registry.empty] at hc
  | @register r path source index _ hindex ih =>
    rcases List.mem_append.mp hc with hc | hc
    · exact ih hc
    · -- What is new comes from a source, where attributes stand for primary keywords only.
      have hgiven := List.mem_map_of_mem (f := fun c => (c.sourcePath, c.definition)) hc
      rw [map_compiled, List.mem_filter, List.mem_map] at hgiven
      obtain ⟨⟨d, hd, heq⟩, -⟩ := hgiven
      obtain ⟨-, rfl⟩ := Prod.mk.inj heq
      exact Keyword.mem_primary_iff.mpr (isConjunction_of_mem_indexSource hindex hd)

/-! ## Positions -/

/-- A lookup reports the definition at some position. -/
theorem lookup_eq_matched_iff_reportsAt {f : FoundDefinition} :
    r.lookup line = .matched f ↔ ∃ i, r.ReportsAt line i f := by
  rw [lookup_eq_matched_iff]
  constructor
  · rintro ⟨before, c, after, values, hd, hc, hbefore, rfl⟩
    refine ⟨before.length, c, values, by simp [hd], hc, rfl, fun j hj b hb => ?_⟩
    rw [hd, List.getElem?_append_left hj] at hb
    exact hbefore b (List.mem_of_getElem? hb)
  · rintro ⟨i, c, values, hi, hc, rfl, hbefore⟩
    obtain ⟨hlt, rfl⟩ := List.getElem?_eq_some_iff.mp hi
    refine ⟨r.definitions.take i, _, r.definitions.drop (i + 1), values, ?_, hc, ?_, rfl⟩
    · rw [List.getElem_cons_drop, List.take_append_drop]
    · intro b hb
      obtain ⟨j, hj, rfl⟩ := List.mem_take_iff_getElem.mp hb
      exact hbefore j (by omega) _ (List.getElem?_eq_getElem _)

/-- If a definition answers a line, then it or one before it is reported. -/
theorem exists_reportsAt {j : Nat} {b : CompiledDefinition} {values : List String}
    (hb : r.definitions[j]? = some b) (hanswers : b.Answers line values) :
    ∃ i ≤ j, ∃ f, r.ReportsAt line i f := by
  induction j using Nat.strongRecOn generalizing b values with
  | ind j ih =>
    by_cases hearlier : ∃ i < j, ∃ c, r.definitions[i]? = some c ∧ ∃ vs, c.Answers line vs
    · obtain ⟨i, hij, c, hc, vs, hvs⟩ := hearlier
      obtain ⟨i', hi', hreports⟩ := ih i hij hc hvs
      exact ⟨i', by omega, hreports⟩
    · exact ⟨j, le_rfl, _, b, values, hb, hanswers, rfl,
        fun i hi c hc vs hvs => hearlier ⟨i, hi, c, hc, vs, hvs⟩⟩

theorem isMatched_lookup_iff_exists_reportsAt :
    (r.lookup line).isMatched = true ↔ ∃ i f, r.ReportsAt line i f := by
  have hmatched : (r.lookup line).isMatched = true ↔ ∃ f, r.lookup line = .matched f := by
    rcases r.lookup_eq_unmatched_or_matched line with hl | ⟨f, hl⟩ <;> rw [hl]
    · simp [StepMatch.unmatched, StepMatch.matched]
    · simp [StepMatch.matched_inj]
  rw [hmatched, exists_comm]
  exact exists_congr fun f => lookup_eq_matched_iff_reportsAt

/-! ## Conjunctions -/

/-- A definition of a registry that is built answers a conjunction if it answers its own keyword,
or that of any primary keyword. -/
theorem Built.answers_and_iff (h : r.Built read fits) {c : CompiledDefinition}
    (hc : c ∈ r.definitions) {t : String} {values : List String} :
    c.Answers ("And " ++ t) values ↔
      ∃ k ∈ Keyword.primary, c.Answers (k.name ++ " " ++ t) values := by
  have hand : c.Answers ("And " ++ t) values ↔ _ := CompiledDefinition.answers_keyword_iff .and t
  constructor
  · intro hanswers
    refine ⟨c.definition.keyword, h.keyword_mem_primary hc, ?_⟩
    exact (CompiledDefinition.answers_keyword_iff _ t).mpr ⟨Or.inr rfl, (hand.mp hanswers).2⟩
  · rintro ⟨k, -, hk⟩
    exact hand.mpr ⟨Or.inl rfl, ((CompiledDefinition.answers_keyword_iff k t).mp hk).2⟩

/-- A conjunction reports the first of the definitions that the primary keywords report. -/
theorem Built.reportsAt_and_iff (h : r.Built read fits) (t : String) {i : Nat}
    {f : FoundDefinition} :
    r.ReportsAt ("And " ++ t) i f ↔
      (∃ k ∈ Keyword.primary, r.ReportsAt (k.name ++ " " ++ t) i f) ∧
        ∀ k ∈ Keyword.primary, ∀ j g, r.ReportsAt (k.name ++ " " ++ t) j g → i ≤ j := by
  constructor
  · rintro ⟨c, values, hi, hc, rfl, hbefore⟩
    constructor
    · obtain ⟨k, hk, hanswers⟩ := (h.answers_and_iff (List.mem_of_getElem? hi)).mp hc
      refine ⟨k, hk, c, values, hi, hanswers, rfl, fun j hj b hb vs hvs => ?_⟩
      exact hbefore j hj b hb vs ((h.answers_and_iff (List.mem_of_getElem? hb)).mpr ⟨k, hk, hvs⟩)
    · rintro k hk j g ⟨b, vs, hj, hb, -, -⟩
      by_contra hlt
      exact hbefore j (by omega) b hj vs
        ((h.answers_and_iff (List.mem_of_getElem? hj)).mpr ⟨k, hk, hb⟩)
  · rintro ⟨⟨k, hk, c, values, hi, hc, rfl, -⟩, hfirst⟩
    refine ⟨c, values, hi, (h.answers_and_iff (List.mem_of_getElem? hi)).mpr ⟨k, hk, hc⟩, rfl, ?_⟩
    intro j hj b hb vs hvs
    -- One that answers earlier would be reported for its own keyword, or one even before it.
    obtain ⟨k', hk', hb'⟩ := (h.answers_and_iff (List.mem_of_getElem? hb)).mp hvs
    obtain ⟨j', hj', g, hg⟩ := exists_reportsAt hb hb'
    have := hfirst k' hk' j' g hg
    omega

/-- Conjunctions and bullets find the same. -/
theorem lookup_conjunction (r : Registry) (t : String) :
    r.lookup ("But " ++ t) = r.lookup ("And " ++ t) ∧
      r.lookup ("* " ++ t) = r.lookup ("And " ++ t) := by
  have hand : StepLine.ofString ("And " ++ t) = ⟨some .and, Text.trimStart t.toList⟩ :=
    StepLine.ofString_keyword .and t
  have hbut : StepLine.ofString ("But " ++ t) = ⟨some .but, Text.trimStart t.toList⟩ :=
    StepLine.ofString_keyword .but t
  unfold lookup
  rw [hand, hbut, StepLine.ofString_bullet]
  exact ⟨rfl, rfl⟩

/-- **Conjunctions search the union of the primary keywords.**

In a registry that is built from sources, lines with the same text behind `And`, `But` and a bullet
are answered alike. They are matched if the text is matched behind `Given`, `When` or `Then`. What
is then reported is what is reported for one of these, with the same values: of the definitions
that they report, the one that was registered first. -/
theorem conjunctions_search_union (h : r.Built read fits) (t : String) :
    r.lookup ("But " ++ t) = r.lookup ("And " ++ t) ∧
      r.lookup ("* " ++ t) = r.lookup ("And " ++ t) ∧
      ((r.lookup ("And " ++ t)).isMatched = true ↔
        (r.lookup ("Given " ++ t)).isMatched = true ∨ (r.lookup ("When " ++ t)).isMatched = true ∨
          (r.lookup ("Then " ++ t)).isMatched = true) ∧
      (∀ line f, r.lookup line = .matched f ↔ ∃ i, r.ReportsAt line i f) ∧
      ∀ i f, r.ReportsAt ("And " ++ t) i f ↔
        (∃ k ∈ Keyword.primary, r.ReportsAt (k.name ++ " " ++ t) i f) ∧
          ∀ k ∈ Keyword.primary, ∀ j g, r.ReportsAt (k.name ++ " " ++ t) j g → i ≤ j := by
  obtain ⟨hbut, hbullet⟩ := r.lookup_conjunction t
  refine ⟨hbut, hbullet, ?_, fun line f => lookup_eq_matched_iff_reportsAt,
    fun i f => h.reportsAt_and_iff t⟩
  have hprimary : (∃ k ∈ Keyword.primary, (r.lookup (k.name ++ " " ++ t)).isMatched = true) ↔
      (r.lookup ("Given " ++ t)).isMatched = true ∨ (r.lookup ("When " ++ t)).isMatched = true ∨
        (r.lookup ("Then " ++ t)).isMatched = true := by
    simp [Keyword.primary, Keyword.name]
  rw [← hprimary]
  -- Where anything is reported, there is a first position that is.
  simp only [isMatched_lookup_iff_exists_reportsAt]
  constructor
  · rintro ⟨i, f, hreports⟩
    obtain ⟨⟨k, hk, hf⟩, -⟩ := (h.reportsAt_and_iff t).mp hreports
    exact ⟨k, hk, i, f, hf⟩
  · rintro ⟨k, hk, i, f, c, values, hi, hc, -, -⟩
    obtain ⟨j, -, hreports⟩ :=
      exists_reportsAt hi ((h.answers_and_iff (List.mem_of_getElem? hi)).mpr ⟨k, hk, hc⟩)
    exact ⟨j, hreports⟩

/-- A source with two definitions that match one text, each for a keyword of its own. -/
def waitingSteps : String :=
  "#[when(\"I \x7baction\x7d\")]\nfn act() \x7b\x7d\n" ++
    "#[given(\"I wait\")]\nfn wait() \x7b\x7d"

/-- The index of the two definitions. -/
def waitingIndex : SourceIndex where
  path := .ofString "steps.rs"
  stepDefinitions :=
    [⟨.when, "I \x7baction\x7d", false, ⟨[], "act"⟩, 2⟩,
      ⟨.given, "I wait", false, ⟨[], "wait"⟩, 4⟩]

/-- The definition for `When` was registered first, so it is the one that a bullet reports. -/
theorem when_before_given : ∃ r : Registry, r.Built Code.Item.ofSource? .estimated ∧
    r.lookup "* I wait" = r.lookup "And I wait" ∧
    r.lookup "And I wait" = r.lookup "When I wait" ∧
    (r.lookup "Given I wait").isMatched = true ∧
    r.lookup "Given I wait" ≠ r.lookup "And I wait" := by
  have hindex : indexSource Code.Item.ofSource? (.ofString "steps.rs") waitingSteps =
      .ok waitingIndex :=
    eq_ok_of_toOption (by decide +kernel)
  have hbuilt : (empty.register .estimated waitingIndex).1.Built Code.Item.ofSource? .estimated :=
    .register .empty hindex
  have hunion := conjunctions_search_union hbuilt "I wait"
  exact ⟨_, hbuilt, hunion.2.1, by decide +kernel, by decide +kernel, by decide +kernel⟩

end Registry

end FeatureDocs
