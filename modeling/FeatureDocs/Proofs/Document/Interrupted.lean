import FeatureDocs.Proofs.Document.Resolved

/-!
# Interrupted documents

A pass ends at the first step on which the matcher fails. The blocks before that step are resolved,
its own block has the answers to the steps before it and nothing else, and all that comes later is
as it was. The synthetic tags of a block are added at the end of its own pass, so a block has all of
them or none.

## Main definitions

* `Step.GainsTags`, `Scenario.GainsTags`: a block and its steps have as many new tags each

## Main results

* `Document.exists_first_failure`: where a matcher fails first
* `Document.resolve_interrupted`: what the first failure leaves of a document
-/

namespace FeatureDocs

/-- The step has so many tags more than before, all behind those. -/
def Step.GainsTags (n : Nat) (s s' : Step) : Prop :=
  ∃ added : List String, added.length = n ∧ s'.tags = s.tags ++ added

/-- The block has so many tags more than before, and so has each of its steps. -/
structure Scenario.GainsTags (n : Nat) (s s' : Scenario) : Prop where
  own : ∃ added : List String, added.length = n ∧ s'.tags = s.tags ++ added
  steps : List.Forall₂ (Step.GainsTags n) s.steps s'.steps

/-- The first element with a property that some element has. -/
theorem exists_first {α : Type} {p : α → Prop} {l : List α} (h : ∃ a ∈ l, p a) :
    ∃ before a after, l = before ++ a :: after ∧ p a ∧ ∀ b ∈ before, ¬ p b := by
  classical
  obtain ⟨a, ha⟩ : ∃ a, l.find? (fun b => decide (p b)) = some a := by
    simpa [← Option.isSome_iff_exists] using h
  obtain ⟨hp, before, after, hsplit, hbefore⟩ := List.find?_eq_some_iff_append.mp ha
  exact ⟨before, a, after, hsplit, by simpa using hp, by simpa using hbefore⟩

variable {matcher : Matcher} {found : String → StepMatch} {addTags : Bool}

/-- A matcher that does not fail on steps answers them. -/
theorem Matcher.answers_of_not_error {steps : List Step}
    (h : ∀ s ∈ steps, ¬ ∃ e, matcher s.line = .error e) :
    matcher.Answers steps matcher.answer := by
  refine answers_of_forall fun s hs => ?_
  cases hs' : matcher s.line with
  | error e => exact absurd ⟨e, hs'⟩ (h s hs)
  | ok found => exact ⟨found, rfl⟩

namespace Scenario

variable {s : Scenario} {done rest : List Step} {step : Step} {e : MatcherError}

theorem matchSteps_of_error (hdone : matcher.Answers done found)
    (he : matcher step.line = .error e) :
    matchSteps matcher (done ++ step :: rest) =
      (some e, done.map (Step.matchedBy found) ++ step :: rest) := by
  induction done with
  | nil =>
    have hstep : step.resolve matcher = .error e := he
    rw [List.nil_append, matchSteps, hstep]
    rfl
  | cons first done ih =>
    have hfirst : first.resolve matcher = .ok (found first.line) :=
      hdone first List.mem_cons_self
    rw [List.cons_append, matchSteps, hfirst]
    simp only [ih fun s hs => hdone s (List.mem_cons_of_mem _ hs)]
    rfl

/-- The steps before the first failure have their answers, and the block is as it was otherwise. -/
theorem resolve_of_error (hs : s.steps = done ++ step :: rest) (hdone : matcher.Answers done found)
    (he : matcher step.line = .error e) :
    s.resolve matcher addTags =
      ⟨.error e, { s with steps := done.map (Step.matchedBy found) ++ step :: rest }⟩ := by
  rw [resolve, hs, matchSteps_of_error hdone he]

/-! ## New tags -/

theorem gainsTags_refl (s : Scenario) : s.GainsTags 0 s where
  own := ⟨[], rfl, (List.append_nil _).symm⟩
  steps := List.forall₂_same.mpr fun _ _ => ⟨[], rfl, (List.append_nil _).symm⟩

/-- A block that is resolved has one tag more, and so has each of its steps, if tags are wanted. -/
theorem Resolved.gainsTags {s' : Scenario} (h : s.Resolved matcher addTags s') :
    s.GainsTags (if addTags then 1 else 0) s' where
  own := ⟨_, by cases addTags <;> rfl, h.tags_eq⟩
  steps := by
    refine List.forall₂_iff_get.mpr ⟨h.length_steps.symm, fun i hi hi' => ?_⟩
    obtain ⟨_, -, hstep⟩ := h.step i s.steps[i] (List.getElem?_eq_getElem hi)
    rw [List.getElem?_eq_getElem hi', Option.some.injEq] at hstep
    exact ⟨_, by cases addTags <;> rfl, congrArg Step.tags hstep⟩

/-- The answers to some steps leave all tags as they were. -/
theorem gainsTags_of_answers (hs : s.steps = done ++ step :: rest) (found : String → StepMatch) :
    s.GainsTags 0 { s with steps := done.map (Step.matchedBy found) ++ step :: rest } where
  own := ⟨[], rfl, (List.append_nil _).symm⟩
  steps := by
    have hsame : ∀ t : Step, t.GainsTags 0 t := fun t => ⟨[], rfl, (List.append_nil _).symm⟩
    rw [hs]
    refine List.rel_append ?_ (List.forall₂_same.mpr fun t _ => hsame t)
    rw [List.forall₂_map_right_iff, List.forall₂_same]
    exact fun t _ => hsame t

end Scenario

namespace Document

/-- The blocks before a failure are resolved, and those after it are as they were. -/
theorem resolveChildren_of_error {before after : List Scenario} {child child' : Scenario}
    {e : MatcherError} (hbefore : ∀ c ∈ before, matcher.Answers c.steps found)
    (hchild : child.resolve matcher addTags = ⟨.error e, child'⟩) :
    resolveChildren matcher addTags (before ++ child :: after) =
      ⟨.error e, before.map (Scenario.matchedBy found addTags) ++ child' :: after⟩ := by
  induction before with
  | nil =>
    rw [List.nil_append, resolveChildren, hchild]
    rfl
  | cons first before ih =>
    rw [List.cons_append, resolveChildren,
      Scenario.resolve_of_answers (hbefore first List.mem_cons_self)]
    simp only [ih fun c hc => hbefore c (List.mem_cons_of_mem _ hc)]
    rfl

/-- Where the matcher fails first: in the first block with a failure, at the first step with one. -/
theorem exists_first_failure {d : Document} (h : ∃ s ∈ d.steps, ∃ e, matcher s.line = .error e) :
    ∃ before child after done step rest e, d.children = before ++ child :: after ∧
      child.steps = done ++ step :: rest ∧ matcher step.line = .error e ∧
      (∀ c ∈ before, matcher.Answers c.steps matcher.answer) ∧
      matcher.Answers done matcher.answer := by
  obtain ⟨s, hs, he⟩ := h
  obtain ⟨c, hc, hs⟩ := List.mem_flatMap.mp hs
  obtain ⟨before, child, after, hchildren, hchild, hbefore⟩ :=
    exists_first (p := fun c : Scenario => ∃ s ∈ c.steps, ∃ e, matcher s.line = .error e)
      ⟨c, hc, s, hs, he⟩
  obtain ⟨done, step, rest, hsteps, ⟨e, he⟩, hdone⟩ := exists_first hchild
  exact ⟨before, child, after, done, step, rest, e, hchildren, hsteps, he,
    fun c hc => Matcher.answers_of_not_error fun s hs he => hbefore c hc ⟨s, hs, he⟩,
    Matcher.answers_of_not_error hdone⟩

/-- A document in which the matcher fails on a step of one block, and on no step before it. -/
theorem resolve_of_error {d : Document} {before after : List Scenario} {child : Scenario}
    {done rest : List Step} {step : Step} {e : MatcherError}
    (hchildren : d.children = before ++ child :: after)
    (hsteps : child.steps = done ++ step :: rest) (he : matcher step.line = .error e)
    (hbefore : ∀ c ∈ before, matcher.Answers c.steps found) (hdone : matcher.Answers done found) :
    d.resolve matcher addTags = ⟨.error e, { d with
      children := before.map (Scenario.matchedBy found addTags) ++
        { child with steps := done.map (Step.matchedBy found) ++ step :: rest } :: after }⟩ := by
  rw [resolve, hchildren,
    resolveChildren_of_error hbefore (Scenario.resolve_of_error hsteps hdone he)]

/-- **What the first failure leaves of a document.**

The error is that of the first step on which the matcher fails, in the order of the document. The
blocks before its own are as after their own passes, which end well; in its own block the steps
before it have their answers. Nothing else has changed: not the step, nor the later ones, nor the
flag or any tag of its block, nor the later blocks, nor the flag of the document. Every block has
all its synthetic tags or none. -/
theorem resolve_interrupted {d : Document} (h : ∃ s ∈ d.steps, ∃ e, matcher s.line = .error e)
    (addTags : Bool) :
    ∃ before child after done step rest e before' done',
      d.children = before ++ child :: after ∧ child.steps = done ++ step :: rest ∧
      matcher step.line = .error e ∧
      d.resolve matcher addTags = ⟨.error e, { d with
        children := before' ++ { child with steps := done' ++ step :: rest } :: after }⟩ ∧
      List.Forall₂ (fun c c' => c.resolve matcher addTags = ⟨.ok c'.implemented, c'⟩ ∧
        c.Resolved matcher addTags c') before before' ∧
      List.Forall₂ (fun s s' => ∃ found, matcher s.line = .ok found ∧
        s' = { s with implementation := some found }) done done' ∧
      List.Forall₂ (fun c c' => c.GainsTags 0 c' ∨ c.GainsTags 1 c') d.children
        (d.resolve matcher addTags).subject.children := by
  obtain ⟨before, child, after, done, step, rest, e, hchildren, hsteps, he, hbefore, hdone⟩ :=
    exists_first_failure h
  have hresolve : d.resolve matcher addTags = _ :=
    resolve_of_error hchildren hsteps he hbefore hdone
  refine ⟨before, child, after, done, step, rest, e, _, _, hchildren, hsteps, he, hresolve,
    ?_, ?_, ?_⟩
  · rw [List.forall₂_map_right_iff, List.forall₂_same]
    intro c hc
    rw [Scenario.implemented_matchedBy]
    exact ⟨Scenario.resolve_of_answers (hbefore c hc) addTags,
      Scenario.resolved_of_answers (hbefore c hc) addTags⟩
  · rw [List.forall₂_map_right_iff, List.forall₂_same]
    exact fun s hs => ⟨_, hdone s hs, rfl⟩
  · rw [hresolve, hchildren]
    refine List.rel_append ?_ (.cons (Or.inl (Scenario.gainsTags_of_answers hsteps _))
      (List.forall₂_same.mpr fun c _ => Or.inl c.gainsTags_refl))
    rw [List.forall₂_map_right_iff, List.forall₂_same]
    intro c hc
    have hgains := (Scenario.resolved_of_answers (hbefore c hc) addTags).gainsTags
    cases addTags with
    | true => exact Or.inr hgains
    | false => exact Or.inl hgains

/-- The matcher fails on a step of the second block. The first block has its tags, and the others
have none, though a step of the second has a new answer. -/
theorem resolve_interrupted_staleDocument :
    let d := staleDocument [["c"], ["c", "b", "a"], ["a"]]
    let matcher := StandIn.failingOn ["Given b"] (StandIn.knowing ["Given a"])
    (∃ s ∈ d.steps, ∃ e, matcher s.line = .error e) ∧
      (d.resolve matcher true).result = .error ⟨"Given b", "matcher offline"⟩ ∧
      List.Forall₂ (fun c c' => c.GainsTags 0 c' ∨ c.GainsTags 1 c') d.children
        (d.resolve matcher true).subject.children ∧
      (d.resolve matcher true).subject.children.map
          (fun c => (c.tags, c.steps.map fun s => (s.isMatched, s.tags))) = [
        (["own", "Not Implemented"], [(false, ["own", "Not Implemented"])]),
        (["own"], [(false, ["own"]), (true, ["own"]), (true, ["own"])]),
        (["own"], [(true, ["own"])])] := by
  intro d matcher
  have hfails : ∃ s ∈ d.steps, ∃ e, matcher s.line = .error e :=
    ⟨staleStep "b", by decide, _, rfl⟩
  obtain ⟨_, _, _, _, _, _, _, _, _, -, -, -, -, -, -, hgains⟩ := resolve_interrupted hfails true
  exact ⟨hfails, rfl, hgains, by decide⟩

end Document

end FeatureDocs
