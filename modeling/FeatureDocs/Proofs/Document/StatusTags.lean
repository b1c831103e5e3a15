import FeatureDocs.Proofs.Document.Interrupted

/-!
# The synthetic tags of a document

A pass adds its tags to a block when it has finished with the steps of the block, and never looks at
tags. So a pass with synthetic tags and one without give the same result, or fail with the same
error, and leave documents that are the same once the new tags are cut off.

## Main definitions

* `Document.cutTagsTo`: a document without the tags that it has gained
* `Scenario.dropStatusTags`: a block without its synthetic tags

## Main results

* `Scenario.resolve_both`: both passes over a block
* `Document.resolve_both`: both passes over a document
-/

namespace FeatureDocs

/-! ## Cutting off tags -/

/-- The step with no more tags than it had before. -/
def Step.cutTagsTo (s before : Step) : Step :=
  { s with tags := s.tags.take before.tags.length }

/-- The block with no more tags than it had before, and its steps likewise. -/
def Scenario.cutTagsTo (s before : Scenario) : Scenario :=
  { s with
    tags := s.tags.take before.tags.length
    steps := List.zipWith Step.cutTagsTo s.steps before.steps }

/-- The document with no more tags than it had before. -/
def Document.cutTagsTo (d before : Document) : Document :=
  { d with children := List.zipWith Scenario.cutTagsTo d.children before.children }

/-- The step without its last tag. -/
def Step.dropStatusTag (s : Step) : Step := { s with tags := s.tags.dropLast }

/-- The block without the last tag of its own and of each step. -/
def Scenario.dropStatusTags (s : Scenario) : Scenario :=
  { s with
    tags := s.tags.dropLast
    steps := s.steps.map Step.dropStatusTag }

theorem Scenario.dropStatusTags_addStatusTags (s : Scenario) :
    s.addStatusTags.dropStatusTags = s := by
  have hsteps : ∀ soFar, (tagSteps soFar s.steps).map Step.dropStatusTag = s.steps := by
    induction s.steps with
    | nil => exact fun _ => rfl
    | cons step steps ih =>
      intro soFar
      rw [tagSteps, List.map_cons, ih, Step.dropStatusTag, List.dropLast_concat]
  rw [addStatusTags, dropStatusTags, hsteps true, List.dropLast_concat]

/-- What stands behind the tags of before is cut off, whatever it is. -/
theorem take_of_gains {before tags : List String}
    (h : ∃ added : List String, added.length = 0 ∧ tags = before ++ added) (more : List String) :
    (tags ++ more).take before.length = tags := by
  obtain ⟨added, hadded, rfl⟩ := h
  obtain rfl := List.eq_nil_of_length_eq_zero hadded
  rw [List.append_nil, List.take_left']
  rfl

theorem take_of_gains_nothing {before tags : List String}
    (h : ∃ added : List String, added.length = 0 ∧ tags = before ++ added) :
    tags.take before.length = tags := by
  simpa using take_of_gains h []

namespace Scenario

theorem zipWith_cutTagsTo {steps before : List Step}
    (h : List.Forall₂ (Step.GainsTags 0) before steps) :
    List.zipWith Step.cutTagsTo steps before = steps := by
  induction h with
  | nil => rfl
  | cons hfirst _ ih =>
    rw [List.zipWith_cons_cons, ih, Step.cutTagsTo, take_of_gains_nothing hfirst]

theorem zipWith_cutTagsTo_tagSteps {steps before : List Step}
    (h : List.Forall₂ (Step.GainsTags 0) before steps) (soFar : Bool) :
    List.zipWith Step.cutTagsTo (tagSteps soFar steps) before = steps := by
  induction h generalizing soFar with
  | nil => rfl
  | cons hfirst _ ih =>
    rw [tagSteps, List.zipWith_cons_cons, ih, Step.cutTagsTo, take_of_gains hfirst]

variable {s before : Scenario}

theorem GainsTags.cutTagsTo (h : before.GainsTags 0 s) : s.cutTagsTo before = s := by
  rw [Scenario.cutTagsTo, take_of_gains_nothing h.own, zipWith_cutTagsTo h.steps]

/-- The synthetic tags of a block are cut off. -/
theorem GainsTags.cutTagsTo_addStatusTags (h : before.GainsTags 0 s) :
    s.addStatusTags.cutTagsTo before = s := by
  rw [Scenario.cutTagsTo, addStatusTags, zipWith_cutTagsTo_tagSteps h.steps, take_of_gains h.own]

/-! ## Both passes -/

/-- **Both passes over a block**: they fail alike, and leave the same; or they end with the same
flag, and one of them adds the tags in the end. -/
theorem resolve_both (matcher : Matcher) (s : Scenario) :
    ∃ s', s.GainsTags 0 s' ∧
      ((∃ e, ∀ addTags, s.resolve matcher addTags = ⟨.error e, s'⟩) ∨
        ∃ own, s.resolve matcher false = ⟨.ok own, s'⟩ ∧
          s.resolve matcher true = ⟨.ok own, s'.addStatusTags⟩ ∧
          s.GainsTags 1 s'.addStatusTags) := by
  by_cases hfails : ∃ step ∈ s.steps, ∃ e, matcher step.line = .error e
  · obtain ⟨done, step, rest, hsteps, ⟨e, he⟩, hdone⟩ := exists_first hfails
    have hanswers := Matcher.answers_of_not_error hdone
    exact ⟨_, gainsTags_of_answers hsteps matcher.answer,
      Or.inl ⟨e, fun addTags => resolve_of_error hsteps hanswers he⟩⟩
  · have hanswers : matcher.Answers s.steps matcher.answer :=
      Matcher.answers_of_not_error fun step hstep he => hfails ⟨step, hstep, he⟩
    exact ⟨s.matchedBy matcher.answer false, (resolved_of_answers hanswers false).gainsTags,
      Or.inr ⟨s.coveredBy matcher.answer, resolve_of_answers hanswers false,
        resolve_of_answers hanswers true, (resolved_of_answers hanswers true).gainsTags⟩⟩

end Scenario

namespace Document

theorem resolveChildren_both (matcher : Matcher) (children : List Scenario) :
    (resolveChildren matcher true children).result =
        (resolveChildren matcher false children).result ∧
      List.zipWith Scenario.cutTagsTo (resolveChildren matcher true children).subject children =
        (resolveChildren matcher false children).subject ∧
      List.Forall₂ (fun c c' => c.GainsTags 0 c' ∨ c.GainsTags 1 c') children
        (resolveChildren matcher true children).subject := by
  induction children with
  | nil => exact ⟨rfl, rfl, .nil⟩
  | cons child children ih =>
    obtain ⟨hresult, hsubject, hgains⟩ := ih
    obtain ⟨child', hchild, ⟨e, hboth⟩ | ⟨own, hplain, htagged, hone⟩⟩ :=
      child.resolve_both matcher
    · -- Both passes end here, and the later blocks are as they were.
      have hlater : List.zipWith Scenario.cutTagsTo children children = children := by
        rw [List.zipWith_self]
        exact List.map_id'' (fun c => c.gainsTags_refl.cutTagsTo) children
      rw [resolveChildren, resolveChildren, hboth true, hboth false]
      refine ⟨rfl, ?_, .cons (Or.inl hchild)
        (List.forall₂_same.mpr fun c _ => Or.inl c.gainsTags_refl)⟩
      rw [List.zipWith_cons_cons, hchild.cutTagsTo, hlater]
    · rw [resolveChildren, resolveChildren, hplain, htagged]
      refine ⟨by simp only [hresult], ?_, .cons (Or.inr hone) hgains⟩
      simp only [List.zipWith_cons_cons, hchild.cutTagsTo_addStatusTags, hsubject]

/-- **Both passes over a document**: they give the same result or the same error, and leave the same
document but for the tags that one of them adds. -/
theorem resolve_both (matcher : Matcher) (d : Document) :
    (d.resolve matcher true).result = (d.resolve matcher false).result ∧
      (d.resolve matcher true).subject.cutTagsTo d = (d.resolve matcher false).subject ∧
      List.Forall₂ (fun c c' => c.GainsTags 0 c' ∨ c.GainsTags 1 c') d.children
        (d.resolve matcher true).subject.children := by
  obtain ⟨hresult, hsubject, hgains⟩ := resolveChildren_both matcher d.children
  rw [resolve, resolve, hresult]
  cases (resolveChildren matcher false d.children).result with
  | error e => exact ⟨rfl, by rw [cutTagsTo, hsubject], hgains⟩
  | ok implemented => exact ⟨rfl, by rw [cutTagsTo, hsubject], hgains⟩

end Document

end FeatureDocs
