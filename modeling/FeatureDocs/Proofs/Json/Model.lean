import FeatureDocs.Site

/-!
# Sites that have a JSON form

Whatever holds paths has a JSON form exactly if all of them are texts. The index of a site lists
blocks of its tree, so the paths of the tree decide.

## Main definitions

* `Path.isText`: the path is a text
* `DocTree.paths`: the paths that a tree holds: those of its nodes, and those of the definitions
  that its steps have been matched with

## Main results

* `Site.isSome_toJson?_ofTree`: a site has a JSON form if the paths of its tree are texts
-/

namespace FeatureDocs

/-- The path is a text. -/
def Path.isText (p : Path) : Bool := p.text?.isSome

/-- The file of the definition that a step has been matched with. -/
def Step.paths (s : Step) : List Path :=
  (s.implementation.bind StepMatch.definition?).toList.map FoundDefinition.sourcePath

/-- The files of the definitions that the steps of a block have been matched with. -/
def Scenario.paths (s : Scenario) : List Path := s.steps.flatMap Step.paths

/-- The paths that a node holds itself. -/
def DocTree.ownPaths (node : DocTree) : List Path :=
  node.place.path :: node.place.writePath :: node.ownScenarios.flatMap Scenario.paths

/-- The paths that a tree holds. -/
def DocTree.paths (tree : DocTree) : List Path := tree.nodes.flatMap DocTree.ownPaths

/-! ## Values that may be missing -/

/-- A value is made of another one if that is there. -/
theorem isSome_bind_some {α β : Type} (x : Option α) (f : α → β) :
    (x.bind fun a => some (f a)).isSome = x.isSome := by
  cases x <;> rfl

/-- A value is made of two others if both are there. -/
theorem isSome_bind_bind {α β γ : Type} (x : Option α) (y : Option β) (f : α → β → γ) :
    (x.bind fun a => y.bind fun b => some (f a b)).isSome = (x.isSome && y.isSome) := by
  cases x <;> cases y <;> rfl

/-- A traversal finds something if it does so for every element. -/
theorem isSome_mapM {α β : Type} (f : α → Option β) (l : List α) :
    (l.mapM f).isSome = l.all fun a => (f a).isSome := by
  induction l with
  | nil => rfl
  | cons a l ih =>
    rw [List.mapM_cons, List.all_cons, ← ih]
    exact isSome_bind_bind (f a) (l.mapM f) List.cons

/-! ## Documents -/

theorem Path.isSome_toJson? (p : Path) : p.toJson?.isSome = p.isText := Option.isSome_map

theorem FoundDefinition.isSome_toJson? (d : FoundDefinition) :
    d.toJson?.isSome = d.sourcePath.isText :=
  (isSome_bind_some _ _).trans d.sourcePath.isSome_toJson?

theorem Step.isSome_toJson? (s : Step) : s.toJson?.isSome = s.paths.all Path.isText := by
  refine (isSome_bind_some _ _).trans ?_
  unfold paths
  rcases s.implementation with _ | ⟨flag, _ | d⟩
  · rfl
  · rfl
  · -- Of an answer only the definition may have no form.
    have hanswer : (StepMatch.mk flag (some d)).toJson?.isSome = d.sourcePath.isText :=
      (isSome_bind_some _ _).trans d.isSome_toJson?
    exact hanswer.trans (Bool.and_true _).symm

theorem Scenario.isSome_toJson? (s : Scenario) : s.toJson?.isSome = s.paths.all Path.isText := by
  refine (isSome_bind_some _ _).trans ?_
  simp only [isSome_mapM, Step.isSome_toJson?, paths, List.all_flatMap]

theorem Document.isSome_toJson? (d : Document) :
    d.toJson?.isSome = (d.children.flatMap Scenario.paths).all Path.isText := by
  refine (isSome_bind_some _ _).trans ?_
  simp only [isSome_mapM, Scenario.isSome_toJson?, List.all_flatMap]

/-! ## Trees -/

namespace DocTree

mutual

theorem isSome_toJson? (tree : DocTree) : tree.toJson?.isSome = tree.paths.all Path.isText := by
  cases tree with
  | directory place tocName children =>
    have hchildren := isSome_toJsonAll? children
    rw [toJson?, paths, nodes, List.flatMap_cons, List.all_append, ← hchildren]
    change _ = ((place.path.isText && (place.writePath.isText && true)) && _)
    rw [← Path.isSome_toJson?, ← Path.isSome_toJson?]
    cases place.path.toJson? <;> cases place.writePath.toJson? <;> cases toJsonAll? children <;> rfl
  | feature place page =>
    have hdocument := page.document.isSome_toJson?
    rw [toJson?, paths, nodes, List.flatMap_singleton]
    change _ = (place.path.isText && (place.writePath.isText &&
      (page.document.children.flatMap Scenario.paths).all Path.isText))
    rw [← Path.isSome_toJson?, ← Path.isSome_toJson?, ← hdocument]
    cases place.path.toJson? <;> cases place.writePath.toJson? <;>
      cases page.document.toJson? <;> rfl
  | file place =>
    change _ = (place.path.isText && (place.writePath.isText && true))
    rw [toJson?, ← Path.isSome_toJson?, ← Path.isSome_toJson?]
    cases place.path.toJson? <;> cases place.writePath.toJson? <;> rfl

theorem isSome_toJsonAll? (trees : List DocTree) :
    (toJsonAll? trees).isSome = ((nodesOfAll trees).flatMap ownPaths).all Path.isText := by
  cases trees with
  | nil => rfl
  | cons tree trees =>
    rw [toJsonAll?, nodesOfAll, List.flatMap_append, List.all_append, ← isSome_toJsonAll? trees]
    exact (isSome_bind_bind _ _ _).trans (congrArg (· && _) (isSome_toJson? tree))

end

/-- The paths of the blocks are among those of the tree. -/
theorem paths_scenarios_subset (tree : DocTree) :
    tree.scenarios.flatMap Scenario.paths ⊆ tree.paths := by
  intro p hp
  obtain ⟨s, hs, hp⟩ := List.mem_flatMap.mp hp
  obtain ⟨node, hnode, hs⟩ := List.mem_flatMap.mp hs
  exact List.mem_flatMap.mpr ⟨node, hnode,
    List.mem_cons_of_mem _ (List.mem_cons_of_mem _ (List.mem_flatMap.mpr ⟨s, hs, hp⟩))⟩

end DocTree

/-! ## Sites -/

/-- An index has a JSON form if its blocks have one: its buckets hold no others. -/
theorem TagIndex.isSome_jsonMembers? (index : TagIndex) :
    index.jsonMembers?.isSome =
      (index.scenarios.flatMap Scenario.paths).all Path.isText := by
  have hscenarios : (index.scenarios.mapM Scenario.toJson?).isSome =
      (index.scenarios.flatMap Scenario.paths).all Path.isText := by
    simp only [isSome_mapM, Scenario.isSome_toJson?, List.all_flatMap]
  refine (isSome_bind_bind _ _ _).trans ?_
  rw [hscenarios, isSome_mapM, Bool.and_eq_right_iff_imp, ← hscenarios, isSome_mapM]
  simp only [List.all_eq_true]
  intro hall x hx
  refine (isSome_bind_some _ _).trans ?_
  rw [isSome_mapM, List.all_eq_true]
  intro s hs
  obtain ⟨i, -, hi⟩ := List.mem_filterMap.mp hs
  exact hall s (List.mem_of_getElem? hi)

/-- **The paths of its tree decide whether a site has a JSON form.** -/
theorem Site.isSome_toJson?_ofTree (tree : DocTree) :
    (ofTree tree).toJson?.isSome = tree.paths.all Path.isText := by
  refine (isSome_bind_bind _ _ _).trans ?_
  -- The index holds the blocks of the tree with other tags, and so no other paths.
  have hindex : (TagIndex.ofScenarios tree.scenarios).scenarios.flatMap Scenario.paths =
      tree.scenarios.flatMap Scenario.paths := by
    rw [TagIndex.ofScenarios, List.flatMap_map]
    rfl
  rw [TagIndex.isSome_jsonMembers?, ofTree, hindex, DocTree.isSome_toJson?,
    Bool.and_eq_left_iff_imp, List.all_eq_true, List.all_eq_true]
  exact fun hall p hp => hall p (DocTree.paths_scenarios_subset tree hp)

end FeatureDocs
