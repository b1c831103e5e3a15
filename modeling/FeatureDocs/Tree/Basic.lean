import FeatureDocs.Document.Basic

/-!
# Documentation trees

A documentation tree has the shape of the file tree that it documents: a node for every entry,
each with the place where it is to be written. A feature file that could be read carries its
document; any other file is a node without content.

## Main definitions

* `DocTree`, `NodePlace`, `FeaturePage`: nodes and what they hold
* `DocTree.nodes`, `DocTree.scenarios`: the nodes of a tree, parents first; the blocks of all
  documents
-/

namespace FeatureDocs

/-- What every node has: the path of the entry, its name, and the path to be written. -/
structure NodePlace where
  path : Path
  name : String
  writePath : Path
  deriving DecidableEq, Repr

/-- What the page of a feature file has. -/
structure FeaturePage where
  /-- The name of the feature. -/
  tocName : String
  /-- The page as seen from the output root. -/
  link : String
  /-- The way back from the page to the output root. -/
  rootFolder : String
  document : Document
  deriving DecidableEq, Repr

/-- The nodes of a documentation tree. -/
inductive DocTree where
  /-- A directory; its name in a table of contents, and its entries in listing order. -/
  | directory (place : NodePlace) (tocName : String) (children : List DocTree)
  /-- A feature file that could be read. -/
  | feature (place : NodePlace) (page : FeaturePage)
  /-- Any other file. -/
  | file (place : NodePlace)
  deriving Repr

namespace DocTree

/-- The place of a node. -/
def place : DocTree → NodePlace
  | directory place _ _ | feature place _ | file place => place

/-- The page of a feature file. -/
def page? : DocTree → Option FeaturePage
  | feature _ page => some page
  | _ => none

/-- The entries of a directory. -/
def children? : DocTree → Option (List DocTree)
  | directory _ _ children => some children
  | _ => none

mutual

/-- A node and all nodes below it, parents first. -/
def nodes : DocTree → List DocTree
  | directory place tocName children => directory place tocName children :: nodesOfAll children
  | feature place page => [feature place page]
  | file place => [file place]

/-- The nodes of several trees. -/
def nodesOfAll : List DocTree → List DocTree
  | [] => []
  | t :: ts => nodes t ++ nodesOfAll ts

end

/-- The blocks of the document of a node. -/
def ownScenarios (node : DocTree) : List Scenario :=
  (node.page?.map fun page => page.document.children).getD []

/-- The blocks of all documents of a tree, in the order of the nodes. -/
def scenarios (node : DocTree) : List Scenario := node.nodes.flatMap ownScenarios

end DocTree

end FeatureDocs
