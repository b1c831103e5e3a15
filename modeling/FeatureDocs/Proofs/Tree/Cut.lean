import FeatureDocs.Proofs.Tree.Pages

/-!
# Cutting nodes out of a tree

Nodes are cut out of a tree by their paths, with all that lies below them. A node far below the root
stands in surroundings, directory by directory: the nodes before and after the next one on the way.
What is put in the surroundings keeps its nodes and its blocks there, and leaves those around it
alone.

## Main definitions

* `DocTree.cut`: a tree without the nodes at some paths
* `DocTree.nodesAt`, `DocTree.scenariosAt`: the nodes at some paths, and their blocks
* `DocTree.Surroundings`: the nodes beside a node

## Main results

* `DocTree.Surroundings.cutAll_fill`: trees that are the same once they are cut, in surroundings
* `DocTree.Surroundings.scenariosOfAll_fill`: the blocks of trees in surroundings
-/

namespace FeatureDocs

namespace DocTree

mutual

/-- A tree without the nodes at some paths and all below them; nothing, if its own path is one. -/
def cut (gone : Path → Bool) : DocTree → List DocTree
  | directory place tocName children =>
    if gone place.path then [] else [directory place tocName (cutAll gone children)]
  | feature place page => if gone place.path then [] else [feature place page]
  | file place => if gone place.path then [] else [file place]

/-- Trees without the nodes at some paths. -/
def cutAll (gone : Path → Bool) : List DocTree → List DocTree
  | [] => []
  | t :: ts => cut gone t ++ cutAll gone ts

end

/-- The nodes at some paths. -/
def nodesAt (here : Path → Bool) (tree : DocTree) : List DocTree :=
  tree.nodes.filter fun node => here node.place.path

/-- The blocks of the nodes at some paths. -/
def scenariosAt (here : Path → Bool) (tree : DocTree) : List Scenario :=
  (tree.nodesAt here).flatMap ownScenarios

/-- The blocks of all documents of several trees. -/
def scenariosOfAll (trees : List DocTree) : List Scenario :=
  (nodesOfAll trees).flatMap ownScenarios

/-- A directory node around some trees: its own data, and the trees before and after those. -/
structure Surroundings where
  place : NodePlace
  tocName : String
  before : List DocTree
  after : List DocTree

/-- Trees in their surroundings, the innermost last. -/
def Surroundings.fill (around : List Surroundings) (trees : List DocTree) : List DocTree :=
  around.foldr (fun s inner => [directory s.place s.tocName (s.before ++ inner ++ s.after)]) trees

theorem nodesOfAll_append (ts us : List DocTree) :
    nodesOfAll (ts ++ us) = nodesOfAll ts ++ nodesOfAll us := by
  induction ts with
  | nil => rfl
  | cons t ts ih => rw [List.cons_append, nodesOfAll, nodesOfAll, ih, List.append_assoc]

theorem nodesOfAll_singleton (t : DocTree) : nodesOfAll [t] = t.nodes := by
  rw [nodesOfAll, nodesOfAll, List.append_nil]

theorem cutAll_append (gone : Path → Bool) (ts us : List DocTree) :
    cutAll gone (ts ++ us) = cutAll gone ts ++ cutAll gone us := by
  induction ts with
  | nil => rfl
  | cons t ts ih => rw [List.cons_append, cutAll, cutAll, ih, List.append_assoc]

theorem cutAll_singleton (gone : Path → Bool) (t : DocTree) : cutAll gone [t] = t.cut gone := by
  rw [cutAll, cutAll, List.append_nil]

theorem scenariosOfAll_append (ts us : List DocTree) :
    scenariosOfAll (ts ++ us) = scenariosOfAll ts ++ scenariosOfAll us := by
  rw [scenariosOfAll, nodesOfAll_append, List.flatMap_append]
  rfl

theorem cut_eq_nil {gone : Path → Bool} {t : DocTree} (h : gone t.place.path = true) :
    t.cut gone = [] := by
  cases t <;> exact if_pos h

theorem scenarios_eq_scenariosOfAll (t : DocTree) : t.scenarios = scenariosOfAll [t] := by
  rw [scenariosOfAll, nodesOfAll_singleton]
  rfl

namespace Surroundings

/-- What is surrounded keeps its nodes. -/
theorem mem_nodesOfAll_fill {around : List Surroundings} {trees : List DocTree} {node : DocTree}
    (h : node ∈ nodesOfAll trees) : node ∈ nodesOfAll (fill around trees) := by
  induction around with
  | nil => exact h
  | cons s around ih =>
    change node ∈ nodesOfAll [directory _ _ (s.before ++ fill around trees ++ s.after)]
    rw [nodesOfAll_singleton, nodes, nodesOfAll_append, nodesOfAll_append]
    simp [ih]

/-- The blocks of what is surrounded come in one piece. -/
theorem scenariosOfAll_fill (around : List Surroundings) : ∃ before after, ∀ trees,
    scenariosOfAll (fill around trees) = before ++ scenariosOfAll trees ++ after := by
  induction around with
  | nil => exact ⟨[], [], fun trees => by simp [fill]⟩
  | cons s around ih =>
    obtain ⟨before, after, h⟩ := ih
    refine ⟨scenariosOfAll s.before ++ before, after ++ scenariosOfAll s.after, fun trees => ?_⟩
    -- A directory has no blocks of its own.
    have hown : scenariosOfAll (fill (s :: around) trees) =
        scenariosOfAll (s.before ++ fill around trees ++ s.after) := by
      change (nodesOfAll [directory _ _ _]).flatMap ownScenarios = _
      rw [nodesOfAll_singleton, nodes, List.flatMap_cons]
      rfl
    rw [hown, scenariosOfAll_append, scenariosOfAll_append, h]
    simp only [List.append_assoc]

/-- Nothing changes around trees that are the same after the cut. -/
theorem cutAll_fill {gone : Path → Bool} {around : List Surroundings} {ts us : List DocTree}
    (h : cutAll gone ts = cutAll gone us) :
    cutAll gone (fill around ts) = cutAll gone (fill around us) := by
  induction around with
  | nil => exact h
  | cons s around ih =>
    change cutAll gone [directory _ _ (s.before ++ fill around ts ++ s.after)] =
      cutAll gone [directory _ _ (s.before ++ fill around us ++ s.after)]
    rw [cutAll_singleton, cutAll_singleton, cut, cut]
    simp only [cutAll_append, ih]

end Surroundings

end DocTree

end FeatureDocs
