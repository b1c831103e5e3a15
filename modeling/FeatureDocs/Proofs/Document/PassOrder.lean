import FeatureDocs.Proofs.Document.Resolved
import FeatureDocs.Tree.Build

/-!
# The order of passes

Four passes annotate a document, and each has fields of its own: tags as they were written, doc
strings, what matching has found and the tags that tell so, and what blocks take over from their
feature. The matcher sees the lines of steps, which no pass changes. So passes can trade places, but
for one pair: blocks take over the tags of the feature as they are at that time.

## Main definitions

* `Pass`, `Pass.runAll`: the passes, and a run of several
* `Pass.annotate`: what a pass makes of a document, where the matcher answers
* `Pass.Independent`: the passes that can trade places

## Main results

* `Pass.annotate_comm`: independent passes commute
* `Pass.foldl_annotate_eq`: all orders come to the same
* `Document.pass_order_immaterial`: all runs of the four passes give the same document
-/

namespace FeatureDocs

/-- The passes that annotate a document. -/
inductive Pass where
  | bareTags
  | escapeArguments
  | resolve
  | inheritFeature
  deriving DecidableEq, Repr

/-- A document between passes, with the flag that resolving it has returned, once it has been
resolved. -/
structure Annotated where
  document : Document
  flag : Option Bool
  deriving DecidableEq, Repr

namespace Pass

/-- The passes in the order in which a build runs them. -/
def all : List Pass := [bareTags, escapeArguments, resolve, inheritFeature]

/-- One more pass. Only resolving can fail. -/
def run (matcher : Matcher) (addTags : Bool) (a : Annotated) : Pass → Except MatcherError Annotated
  | bareTags => .ok { a with document := a.document.bareTags }
  | escapeArguments => .ok { a with document := a.document.escapeArguments }
  | resolve =>
    let resolved := a.document.resolve matcher addTags
    resolved.result.map fun flag => ⟨resolved.subject, some flag⟩
  | inheritFeature => .ok { a with document := a.document.inheritFeature }

/-- Passes one after another, up to the first that fails. -/
def runAll (matcher : Matcher) (addTags : Bool) (order : List Pass) (d : Document) :
    Except MatcherError Annotated :=
  order.foldlM (run matcher addTags) ⟨d, none⟩

/-- What a pass makes of a document whose steps are answered. -/
def annotate (found : String → StepMatch) (addTags : Bool) (a : Annotated) : Pass → Annotated
  | bareTags => { a with document := a.document.bareTags }
  | escapeArguments => { a with document := a.document.escapeArguments }
  | resolve => ⟨a.document.matchedBy found addTags, some (a.document.coveredBy found)⟩
  | inheritFeature => { a with document := a.document.inheritFeature }

end Pass

variable {found : String → StepMatch} {addTags : Bool}

/-! ## Lines -/

/-- The lines of the steps of a document. -/
def Document.lines (d : Document) : List String :=
  d.children.flatMap fun c => c.steps.map Step.line

theorem Document.lines_of_children {d d' : Document} {f : Scenario → Scenario}
    (h : d'.children = d.children.map f)
    (hf : ∀ c : Scenario, (f c).steps.map Step.line = c.steps.map Step.line) :
    d'.lines = d.lines := by
  rw [lines, lines, h, List.flatMap_map]
  exact List.flatMap_congr fun c _ => hf c

theorem Document.lines_bareTags (d : Document) : d.bareTags.lines = d.lines :=
  lines_of_children rfl fun _ => rfl

theorem Document.lines_escapeArguments (d : Document) : d.escapeArguments.lines = d.lines := by
  refine lines_of_children rfl fun c => ?_
  rw [Scenario.escapeArguments, List.map_map]
  rfl

theorem Scenario.lines_tagSteps (soFar : Bool) (steps : List Step) :
    (tagSteps soFar steps).map Step.line = steps.map Step.line := by
  induction steps generalizing soFar with
  | nil => rfl
  | cons step steps ih =>
    rw [tagSteps, List.map_cons, List.map_cons, ih]
    rfl

theorem Scenario.lines_matchedBy (s : Scenario) :
    (s.matchedBy found addTags).steps.map Step.line = s.steps.map Step.line := by
  have hmatched : (s.steps.map (Step.matchedBy found)).map Step.line = s.steps.map Step.line := by
    rw [List.map_map]
    rfl
  cases addTags with
  | false => exact hmatched
  | true => exact (lines_tagSteps true _).trans hmatched

/-- No pass changes the line of a step. -/
theorem Pass.lines_annotate (a : Annotated) (p : Pass) :
    (annotate found addTags a p).document.lines = a.document.lines := by
  cases p with
  | bareTags => exact a.document.lines_bareTags
  | escapeArguments => exact a.document.lines_escapeArguments
  | resolve => exact Document.lines_of_children rfl Scenario.lines_matchedBy
  | inheritFeature => exact Document.lines_of_children rfl fun _ => rfl

/-- The matcher answers the lines of a document, as `found` says. -/
def Matcher.AnswersLines (matcher : Matcher) (d : Document) (found : String → StepMatch) : Prop :=
  ∀ line ∈ d.lines, matcher line = .ok (found line)

theorem Matcher.AnswersLines.children {matcher : Matcher} {d : Document}
    (h : matcher.AnswersLines d found) : ∀ c ∈ d.children, matcher.Answers c.steps found :=
  fun c hc _ hs => h _ (List.mem_flatMap.mpr ⟨c, hc, List.mem_map_of_mem hs⟩)

theorem Pass.run_of_answers {matcher : Matcher} {a : Annotated}
    (h : matcher.AnswersLines a.document found) (p : Pass) :
    run matcher addTags a p = .ok (annotate found addTags a p) := by
  cases p with
  | resolve =>
    rw [run, Document.resolve_of_answers h.children]
    rfl
  | bareTags | escapeArguments | inheritFeature => rfl

/-- Where the matcher answers, no run of passes fails. -/
theorem Pass.foldlM_run_of_answers {matcher : Matcher} {a : Annotated}
    (h : matcher.AnswersLines a.document found) (order : List Pass) :
    order.foldlM (run matcher addTags) a = .ok (order.foldl (annotate found addTags) a) := by
  -- The lines stay the same from pass to pass, so they stay answered.
  induction order generalizing a with
  | nil => rfl
  | cons p order ih =>
    have hnext : matcher.AnswersLines (annotate found addTags a p).document found := by
      unfold Matcher.AnswersLines
      rw [lines_annotate]
      exact h
    rw [List.foldlM_cons, run_of_answers h, List.foldl_cons, ← ih hnext]
    rfl

/-! ## Two passes -/

theorem bareTag_statusTag (implemented : Bool) :
    bareTag (statusTag implemented) = statusTag implemented := by
  cases implemented <;> decide

namespace Scenario

/-- The synthetic tags have no `@` to lose. -/
theorem bareTags_matchedBy (s : Scenario) :
    (s.matchedBy found addTags).bareTags = s.bareTags.matchedBy found addTags := by
  cases addTags with
  | false => rfl
  | true =>
    have htags : (s.tags ++ [statusTag (s.coveredBy found)]).map bareTag =
        s.tags.map bareTag ++ [statusTag (s.coveredBy found)] := by
      rw [List.map_append, List.map_singleton, bareTag_statusTag]
    exact congrArg (fun tags => { s.bareTags.matchedBy found true with tags }) htags

theorem tagSteps_map_escapeArgument (soFar : Bool) (steps : List Step) :
    tagSteps soFar (steps.map Step.escapeArgument) =
      (tagSteps soFar steps).map Step.escapeArgument := by
  induction steps generalizing soFar with
  | nil => rfl
  | cons step steps ih =>
    rw [List.map_cons, tagSteps, ih]
    rfl

/-- Arguments are no part of what is matched. -/
theorem coveredBy_escapeArguments (s : Scenario) :
    s.escapeArguments.coveredBy found = s.coveredBy found := by
  rw [coveredBy, escapeArguments, List.all_map]
  rfl

theorem escapeArguments_matchedBy (s : Scenario) :
    (s.matchedBy found addTags).escapeArguments =
      s.escapeArguments.matchedBy found addTags := by
  have hsteps : (s.steps.map Step.escapeArgument).map (Step.matchedBy found) =
      (s.steps.map (Step.matchedBy found)).map Step.escapeArgument := by
    rw [List.map_map, List.map_map]
    rfl
  unfold matchedBy
  rw [coveredBy_escapeArguments]
  cases addTags with
  | false =>
    exact congrArg (fun steps => { s with steps, implemented := s.coveredBy found }) hsteps.symm
  | true =>
    simp only [if_true, addStatusTags, escapeArguments, hsteps, tagSteps_map_escapeArgument]

end Scenario

namespace Document

/-- Changes of blocks that commute block by block. -/
theorem map_children_comm {f g : Scenario → Scenario} (h : ∀ c, f (g c) = g (f c))
    (children : List Scenario) : (children.map g).map f = (children.map f).map g := by
  rw [List.map_map, List.map_map]
  exact List.map_congr_left fun c _ => h c

theorem escapeArguments_bareTags (d : Document) :
    d.bareTags.escapeArguments = d.escapeArguments.bareTags :=
  congrArg (fun children => { d.bareTags with children })
    (map_children_comm (f := Scenario.escapeArguments) (g := Scenario.bareTags) (fun _ => rfl)
      d.children)

theorem coveredBy_bareTags (d : Document) : d.bareTags.coveredBy found = d.coveredBy found := by
  rw [coveredBy, bareTags, List.all_map]
  rfl

theorem coveredBy_escapeArguments (d : Document) :
    d.escapeArguments.coveredBy found = d.coveredBy found := by
  rw [coveredBy, escapeArguments, List.all_map]
  exact congrArg d.children.all (funext Scenario.coveredBy_escapeArguments)

theorem coveredBy_inheritFeature (d : Document) :
    d.inheritFeature.coveredBy found = d.coveredBy found := by
  rw [coveredBy, inheritFeature, List.all_map]
  rfl

theorem bareTags_matchedBy (d : Document) :
    (d.matchedBy found addTags).bareTags = d.bareTags.matchedBy found addTags := by
  rw [matchedBy, matchedBy, coveredBy_bareTags]
  exact congrArg (fun children =>
      { d.bareTags with children, implemented := d.coveredBy found })
    (map_children_comm (f := Scenario.bareTags) Scenario.bareTags_matchedBy d.children)

theorem escapeArguments_matchedBy (d : Document) :
    (d.matchedBy found addTags).escapeArguments = d.escapeArguments.matchedBy found addTags := by
  rw [matchedBy, matchedBy, coveredBy_escapeArguments]
  exact congrArg (fun children => { d with children, implemented := d.coveredBy found })
    (map_children_comm (f := Scenario.escapeArguments) Scenario.escapeArguments_matchedBy
      d.children)

theorem inheritFeature_escapeArguments (d : Document) :
    d.escapeArguments.inheritFeature = d.inheritFeature.escapeArguments :=
  congrArg (fun children => { d with children })
    (map_children_comm (f := fun c => { c with featureTags := d.tags, featureName := d.name })
      (g := Scenario.escapeArguments) (fun _ => rfl) d.children)

/-- What a block takes over from its feature is not what resolving the feature changes. -/
theorem inheritFeature_matchedBy (d : Document) :
    (d.matchedBy found addTags).inheritFeature = d.inheritFeature.matchedBy found addTags := by
  rw [matchedBy, matchedBy, coveredBy_inheritFeature]
  refine congrArg (fun children => { d with children, implemented := d.coveredBy found })
    (map_children_comm (g := Scenario.matchedBy found addTags) (fun c => ?_) d.children)
  cases addTags <;> rfl

end Document

namespace Pass

/-- The passes can trade places: they are not the ones that strip the tags of the feature and hand
them on. -/
def Independent (p q : Pass) : Prop :=
  ¬ (p = bareTags ∧ q = inheritFeature) ∧ ¬ (p = inheritFeature ∧ q = bareTags)

variable {p q : Pass}

theorem independent_of_ne_bareTags (hp : p ≠ bareTags) (hq : q ≠ bareTags) : p.Independent q :=
  ⟨fun h => hp h.1, fun h => hq h.2⟩

theorem independent_of_ne_inheritFeature (hp : p ≠ inheritFeature) (hq : q ≠ inheritFeature) :
    p.Independent q :=
  ⟨fun h => hq h.2, fun h => hp h.1⟩

/-- **Independent passes commute.** -/
theorem annotate_comm (h : p.Independent q) (a : Annotated) :
    annotate found addTags (annotate found addTags a p) q =
      annotate found addTags (annotate found addTags a q) p := by
  cases p <;> cases q
  case bareTags.inheritFeature => exact absurd ⟨rfl, rfl⟩ h.1
  case inheritFeature.bareTags => exact absurd ⟨rfl, rfl⟩ h.2
  case bareTags.escapeArguments | escapeArguments.bareTags =>
    simp only [annotate, Document.escapeArguments_bareTags]
  case bareTags.resolve | resolve.bareTags =>
    simp only [annotate, Document.bareTags_matchedBy, Document.coveredBy_bareTags]
  case escapeArguments.resolve | resolve.escapeArguments =>
    simp only [annotate, Document.escapeArguments_matchedBy, Document.coveredBy_escapeArguments]
  case escapeArguments.inheritFeature | inheritFeature.escapeArguments =>
    simp only [annotate, Document.inheritFeature_escapeArguments]
  case resolve.inheritFeature | inheritFeature.resolve =>
    simp only [annotate, Document.inheritFeature_matchedBy, Document.coveredBy_inheritFeature]
  all_goals rfl

/-- The tags that blocks have taken over are no longer stripped. -/
example :
    let d := { staleDocument [["a"]] with tags := ["@f"] }
    d.inheritFeature.bareTags.children.map Scenario.featureTags = [["@f"]] ∧
      d.bareTags.inheritFeature.children.map Scenario.featureTags = [["f"]] := by decide

/-- Passes that are independent of one another come to the same in any order. -/
theorem foldl_annotate_perm {order order' : List Pass} (hperm : order.Perm order')
    (h : ∀ p ∈ order, ∀ q ∈ order, p.Independent q) (a : Annotated) :
    order.foldl (annotate found addTags) a = order'.foldl (annotate found addTags) a :=
  hperm.foldl_eq' (fun p hp q hq a => annotate_comm (h p hp q hq) a) a

/-- Where no tags are stripped any more, blocks may as well take them over last. -/
theorem foldl_annotate_inheritFeature {after : List Pass} (h : bareTags ∉ after)
    (a : Annotated) :
    (inheritFeature :: after).foldl (annotate found addTags) a =
      (after ++ [inheritFeature]).foldl (annotate found addTags) a := by
  have hne : ∀ p ∈ inheritFeature :: after, p ≠ bareTags := by
    rintro p hp rfl
    rcases List.mem_cons.mp hp with heq | hafter
    · cases heq
    · exact h hafter
  exact foldl_annotate_perm (List.perm_append_singleton inheritFeature after).symm
    (fun p hp q hq => independent_of_ne_bareTags (hne p hp) (hne q hq)) a

/-- An order in which tags are stripped before they are handed on: where the latter pass is left
out, the other three are in some order, and stripping is not behind it. -/
theorem exists_others {order : List Pass} (hperm : order.Perm all)
    (hbefore : [bareTags, inheritFeature].Sublist order) :
    ∃ front after, order = front ++ inheritFeature :: after ∧ bareTags ∉ after ∧
      (front ++ after).Perm [bareTags, escapeArguments, resolve] := by
  obtain ⟨early, late, rfl, hbare, hlate⟩ := List.cons_sublist_iff.mp hbefore
  obtain ⟨between, after, rfl⟩ := List.append_of_mem (List.singleton_sublist.mp hlate)
  have hnodup : (early ++ (between ++ inheritFeature :: after)).Nodup :=
    hperm.nodup_iff.mpr (by decide)
  refine ⟨early ++ between, after, by rw [List.append_assoc], fun hafter => ?_, ?_⟩
  · -- Stripping would stand twice in the order.
    have hlater : bareTags ∈ between ++ inheritFeature :: after :=
      List.mem_append_right between (List.mem_cons_of_mem inheritFeature hafter)
    exact List.disjoint_of_nodup_append hnodup hbare hlater
  · have hfront : (early ++ between ++ inheritFeature :: after).Perm
        (inheritFeature :: (early ++ between ++ after)) := List.perm_middle
    have hall : all.Perm (inheritFeature :: [bareTags, escapeArguments, resolve]) := by decide
    rw [← List.append_assoc] at hperm
    exact (hfront.symm.trans (hperm.trans hall)).cons_inv

/-- **All orders come to the same** in which tags are stripped before they are handed on. -/
theorem foldl_annotate_eq {order : List Pass} (hperm : order.Perm all)
    (hbefore : [bareTags, inheritFeature].Sublist order) (a : Annotated) :
    order.foldl (annotate found addTags) a = all.foldl (annotate found addTags) a := by
  obtain ⟨front, after, rfl, hafter, hothers⟩ := exists_others hperm hbefore
  have hne : ∀ p ∈ front ++ after, p ≠ inheritFeature := by
    rintro p hp rfl
    have hmem := hothers.mem_iff.mp hp
    revert hmem
    decide
  calc (front ++ inheritFeature :: after).foldl (annotate found addTags) a
      = (front ++ after ++ [inheritFeature]).foldl (annotate found addTags) a := by
        rw [List.foldl_append, foldl_annotate_inheritFeature hafter, ← List.foldl_append,
          List.append_assoc]
    _ = ([bareTags, escapeArguments, resolve] ++ [inheritFeature]).foldl
          (annotate found addTags) a := by
        rw [List.foldl_append, foldl_annotate_perm hothers fun p hp q hq =>
          independent_of_ne_inheritFeature (hne p hp) (hne q hq), ← List.foldl_append]
    _ = all.foldl (annotate found addTags) a := rfl

end Pass

/-- **The order of the passes is immaterial**, as long as tags are stripped before blocks take over
those of the feature.

Where the matcher decides on all steps of a document, no run of the four passes fails, and all of
them give the same document and the same flag: those of a build, whether the synthetic tags are
wanted or not. -/
theorem Document.pass_order_immaterial {matcher : Matcher} {d : Document}
    (h : ∀ s ∈ d.steps, ∃ found, matcher s.line = .ok found) (addTags : Bool) :
    ∃ d',
      (∀ order : List Pass, order.Perm [.bareTags, .escapeArguments, .resolve, .inheritFeature] →
        [.bareTags, .inheritFeature].Sublist order →
        Pass.runAll matcher addTags order d = .ok ⟨d', some (d.steps.all matcher.covers)⟩) ∧
      ∀ b : TreeBuilder, b.matcher = matcher → b.addTags = addTags → b.annotate d = .ok d' := by
  have hanswers := Matcher.answers_of_forall h
  have hlines : matcher.AnswersLines d matcher.answer := by
    intro line hline
    obtain ⟨c, hc, hline⟩ := List.mem_flatMap.mp hline
    obtain ⟨s, hs, rfl⟩ := List.mem_map.mp hline
    exact hanswers s (List.mem_flatMap.mpr ⟨c, hc, hs⟩)
  have hcovered : d.coveredBy matcher.answer = d.steps.all matcher.covers := by
    rw [hanswers.all_covers, List.all_map, steps, List.all_flatMap]
    rfl
  -- A build resolves the document when the first two passes are done.
  have hprepared : matcher.AnswersLines d.bareTags.escapeArguments matcher.answer := by
    unfold Matcher.AnswersLines
    rw [lines_escapeArguments, lines_bareTags]
    exact hlines
  refine ⟨(d.bareTags.escapeArguments.matchedBy matcher.answer addTags).inheritFeature,
    fun order hperm hbefore => ?_, ?_⟩
  · rw [Pass.runAll, Pass.foldlM_run_of_answers hlines, Pass.foldl_annotate_eq hperm hbefore,
      ← hcovered, ← coveredBy_bareTags, ← coveredBy_escapeArguments]
    rfl
  · rintro b rfl rfl
    rw [TreeBuilder.annotate, resolve_of_answers hprepared.children]

/-- Two orders on a document with tags that look like synthetic ones: a block that is resolved
before its tags are stripped ends up with the same tags. -/
theorem Document.pass_orders_staleDocument :
    let d := { staleDocument [["a", "b"], ["a"]] with tags := ["@@f", "@Implemented"] }
    let matcher := StandIn.knowing ["Given a"]
    (∀ s ∈ d.steps, ∃ found, matcher s.line = .ok found) ∧
      ∃ d',
        Pass.runAll matcher true [.resolve, .bareTags, .inheritFeature, .escapeArguments] d =
          .ok ⟨d', some false⟩ ∧
        Pass.runAll matcher true [.escapeArguments, .bareTags, .inheritFeature, .resolve] d =
          .ok ⟨d', some false⟩ ∧
        d'.children.map (fun c => (c.tags, c.featureTags)) = [
          (["own", "Not Implemented"], ["@f", "Implemented"]),
          (["own", "Implemented"], ["@f", "Implemented"])] := by
  intro d matcher
  have hanswered : ∀ s ∈ d.steps, ∃ found, matcher s.line = .ok found := fun _ _ => ⟨_, rfl⟩
  obtain ⟨d', hall, -⟩ := pass_order_immaterial hanswered true
  have hcovers : d.steps.all matcher.covers = false := by decide
  rw [hcovers] at hall
  have hresolvedFirst := hall [.resolve, .bareTags, .inheritFeature, .escapeArguments]
    (by decide) (by decide)
  have hresolvedLast := hall [.escapeArguments, .bareTags, .inheritFeature, .resolve]
    (by decide) (by decide)
  refine ⟨hanswered, d', hresolvedFirst, hresolvedLast, ?_⟩
  have hd' := congrArg (fun x => x.toOption.map fun a : Annotated => a.document) hresolvedLast
  obtain rfl := Option.some.inj hd'
  decide

end FeatureDocs
