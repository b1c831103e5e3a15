import FeatureDocs.Disk
import FeatureDocs.Document.Annotate
import FeatureDocs.Document.OfFeature
import FeatureDocs.Document.Resolve
import FeatureDocs.Tree.Basic

/-!
# Building a documentation tree

The tree of a path follows the file tree below it, in listing order and without following links. A
feature file is read, annotated and resolved. One that cannot be read, or is no feature, becomes a
file without content; every other failure ends the build, and the first one counts.

A node is written where its path, seen from the base directory, leads to from the output root, so
the output has the shape of the source.

## Main definitions

* `TreeBuilder`: what a build depends on
* `TreeBuilder.build`: the tree of a path
-/

namespace FeatureDocs

/-- Why a build ends. -/
inductive BuildError where
  /-- An entry cannot be inspected, or a directory cannot be listed. -/
  | io (path : Path) (cause : OsError)
  /-- The step matcher failed. -/
  | stepMatch (e : MatcherError)
  deriving DecidableEq, Repr

/-- What a build depends on. -/
structure TreeBuilder where
  grammar : Grammar
  /-- The renderer of descriptions. -/
  render : String → String
  matcher : Matcher
  /-- Blocks and steps are tagged as implemented or not. -/
  addTags : Bool
  outputRoot : Path
  baseDirectory : Path

/-- The ending of the names of feature files. -/
def featureEnding : String := ".feature"

/-- The ending of the names of pages. -/
def pageEnding : String := ".html"

/-- The name has the ending of feature files. -/
def isFeatureName (name : String) : Bool := featureEnding.toList.isSuffixOf name.toList

/-- The name of an entry as it is shown; a path without a file name is shown whole. -/
def shownName (p : Path) : String :=
  match p.fileName? with
  | some n => Path.displayName n
  | none => p.display

/-- The way back from a page at a relative path: one step up for each component above it. -/
def wayUp (relative : Path) : String :=
  String.join (List.replicate ((relative.parent?.map fun p => p.components.length).getD 0) "../")

namespace TreeBuilder

/-- A path as it is seen from the base directory, or as it is if it is not below that. -/
def seenFromBase (b : TreeBuilder) (p : Path) : Path := (p.stripPrefix? b.baseDirectory).getD p

/-- The place of the node of a directory or a file without content. -/
def place (b : TreeBuilder) (p : Path) : NodePlace where
  path := p
  name := shownName p
  writePath := b.outputRoot.join (b.seenFromBase p)

/-- The document of a feature file with all annotations. -/
def annotate (b : TreeBuilder) (d : Document) : Except MatcherError Document :=
  let resolved := d.bareTags.escapeArguments.resolve b.matcher b.addTags
  match resolved.result with
  | .error e => .error e
  | .ok _ => .ok resolved.subject.inheritFeature

/-- The node of a feature file with its finished document. -/
def featureNode (b : TreeBuilder) (p : Path) (d : Document) : DocTree :=
  let relative := b.seenFromBase p
  .feature
    { path := p
      name := shownName p
      writePath := (b.outputRoot.join relative).followedBy pageEnding }
    { tocName := d.name
      link := "./" ++ relative.names ++ pageEnding
      rootFolder := wayUp relative
      document := d }

/-- The document of a file, if its name is that of a feature file and its text that of a
feature. -/
def document? (b : TreeBuilder) (p : Path) (text : Except OsError String) : Option Document :=
  if isFeatureName (shownName p) then text.toOption.bind (Document.read? b.grammar b.render)
  else none

/-- The node of an entry that is no directory, given what comes of reading it. -/
def buildFile (b : TreeBuilder) (p : Path) (text : Except OsError String) :
    Except BuildError DocTree :=
  match b.document? p text with
  | none => .ok (.file (b.place p))
  | some d =>
    match b.annotate d with
    | .error e => .error (.stepMatch e)
    | .ok d => .ok (b.featureNode p d)

/-- The node of a directory. -/
def directoryNode (b : TreeBuilder) (p : Path) (children : List DocTree) : DocTree :=
  .directory (b.place p) (b.seenFromBase p).names children

mutual

/-- The node of an entry that is found at a path. -/
def buildEntry (b : TreeBuilder) (disk : Disk) (p : Path) : Entry → Except BuildError DocTree
  | .directory entries => (buildEntries b disk p entries).map (b.directoryNode p)
  | .denied .inspect | .denied .list => .error (.io p .permissionDenied)
  | .file _ | .link _ | .denied .read => b.buildFile p (disk.readText p)

/-- The nodes of the entries of a directory. -/
def buildEntries (b : TreeBuilder) (disk : Disk) (p : Path) :
    List (Name × Entry) → Except BuildError (List DocTree)
  | [] => .ok []
  | entry :: entries =>
    match buildNamed b disk p entry with
    | .error e => .error e
    | .ok node => (buildEntries b disk p entries).map (node :: ·)

/-- The node of one entry of a directory. -/
def buildNamed (b : TreeBuilder) (disk : Disk) (p : Path) :
    Name × Entry → Except BuildError DocTree
  | (n, e) => buildEntry b disk (p.entry n) e

end

/-- The tree of a path. -/
def build (b : TreeBuilder) (disk : Disk) (p : Path) : Except BuildError DocTree :=
  match disk.inspect p with
  | .error e => .error (.io p e)
  | .ok (_, e) => b.buildEntry disk p e

end TreeBuilder

end FeatureDocs
