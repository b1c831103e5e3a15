import FeatureDocs.Proofs.Document.Status
import FeatureDocs.Proofs.Path.Text
import FeatureDocs.Proofs.Tree.Made
import FeatureDocs.Proofs.Tree.Pages

/-!
# Trees whose paths are texts

The paths that a tree holds are texts if the output root is one, and the paths of the entries, and
the files of the definitions that the matcher reports. What a feature file says does not matter for
that.

## Main results

* `TreeBuilder.MadeFor.isText_place`: the paths of a node
* `TreeBuilder.isText_of_mem_paths`: the paths of a tree
-/

namespace FeatureDocs

/-! ## Documents -/

namespace Scenario

theorem paths_addStatusTags (s : Scenario) : s.addStatusTags.paths = s.paths := by
  have hsteps : ∀ soFar,
      (tagSteps soFar s.steps).flatMap Step.paths = s.steps.flatMap Step.paths := by
    induction s.steps with
    | nil => exact fun _ => rfl
    | cons step steps ih =>
      intro soFar
      rw [tagSteps, List.flatMap_cons, List.flatMap_cons, ih]
      rfl
  exact hsteps true

/-- Only the answers of a matcher report paths. -/
theorem exists_of_mem_paths_matchedBy {found : String → StepMatch} {addTags : Bool} {s : Scenario}
    {q : Path} (h : q ∈ (s.matchedBy found addTags).paths) :
    ∃ line d, (found line).definition? = some d ∧ d.sourcePath = q := by
  have hplain : q ∈ (s.matchedBy found false).paths := by
    cases addTags with
    | false => exact h
    | true => exact paths_addStatusTags (s.matchedBy found false) ▸ h
  obtain ⟨_, hstep, hq⟩ := List.mem_flatMap.mp hplain
  obtain ⟨step, -, rfl⟩ := List.mem_map.mp hstep
  obtain ⟨d, hd, rfl⟩ := List.mem_map.mp hq
  exact ⟨step.line, d, Option.mem_toList.mp hd, rfl⟩

end Scenario

namespace TreeBuilder

variable {b : TreeBuilder} {disk : Disk} {found : String → StepMatch}

/-- A finished document reports only what the matcher does. -/
theorem exists_of_mem_paths_annotate (hmatcher : ∀ line, b.matcher line = .ok (found line))
    {d finished : Document} (h : b.annotate d = .ok finished) {q : Path}
    (hq : q ∈ finished.children.flatMap Scenario.paths) :
    ∃ line d, (found line).definition? = some d ∧ d.sourcePath = q := by
  rw [annotate, Document.resolve_of_answers fun c _ s _ => hmatcher s.line] at h
  obtain rfl := Except.ok.inj h
  obtain ⟨c, hc, hq⟩ := List.mem_flatMap.mp hq
  obtain ⟨resolved, hresolved, rfl⟩ := List.mem_map.mp hc
  obtain ⟨s, -, rfl⟩ := List.mem_map.mp hresolved
  exact Scenario.exists_of_mem_paths_matchedBy hq

/-! ## Nodes -/

theorem isText_writePath {p : Path} (houtput : b.outputRoot.isText = true)
    (hp : p.isText = true) : (b.place p).writePath.isText = true := by
  refine Path.isText_join houtput ?_
  rw [seenFromBase]
  cases hseen : p.stripPrefix? b.baseDirectory with
  | none => exact hp
  | some q => exact Path.isText_stripPrefix? hp hseen

theorem MadeFor.isText_place {p : Path} {e : Entry} {node : DocTree} (h : b.MadeFor p e node)
    (houtput : b.outputRoot.isText = true) (hp : p.isText = true) :
    node.place.path.isText = true ∧ node.place.writePath.isText = true := by
  cases h with
  | directory entries children => exact ⟨hp, isText_writePath houtput hp⟩
  | feature d => exact ⟨hp, Path.isText_followedBy (isText_writePath houtput hp) _⟩
  | file => exact ⟨hp, isText_writePath houtput hp⟩

/-- **The paths of a tree are texts** if the output root is one, and each path that is visited, and
each file of a definition that is reported. -/
theorem isText_of_mem_paths {p q : Path} {tree : DocTree} (h : b.build disk p = .ok tree)
    (hmatcher : ∀ line, b.matcher line = .ok (found line))
    (houtput : b.outputRoot.isText = true) (hvisits : ∀ r ∈ disk.visits p, r.isText = true)
    (hfound : ∀ line d, (found line).definition? = some d → d.sourcePath.isText = true)
    (hq : q ∈ tree.paths) : q.isText = true := by
  cases hinspect : disk.inspect p with
  | error cause => simp [build_of_inspect_error hinspect] at h
  | ok x =>
    obtain ⟨place, e⟩ := x
    rw [build_of_inspect hinspect] at h
    obtain ⟨node, hnode, hq⟩ := List.mem_flatMap.mp hq
    obtain ⟨y, hy, hmade⟩ := exists_partner (forall₂_madeFor h).flip hnode
    have hplace := hmade.isText_place houtput
      (hvisits _ (Disk.visits_eq hinspect ▸ List.mem_map_of_mem hy))
    rcases List.mem_cons.mp hq with rfl | hq
    · exact hplace.1
    rcases List.mem_cons.mp hq with rfl | hq
    · exact hplace.2
    -- Any other path of a node is reported by a step of its page.
    cases hpage : node.page? with
    | none => simp [DocTree.ownScenarios, hpage] at hq
    | some page =>
      obtain ⟨d, -, hannotate⟩ := page_of_buildEntry h hnode hpage
      rw [DocTree.ownScenarios, hpage] at hq
      obtain ⟨line, f, hf, rfl⟩ := exists_of_mem_paths_annotate hmatcher hannotate hq
      exact hfound line f hf

end TreeBuilder

end FeatureDocs
