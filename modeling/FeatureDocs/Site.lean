import FeatureDocs.Config
import FeatureDocs.Json.Model
import FeatureDocs.Step.Source
import FeatureDocs.Tree.Build

/-!
# Documentation sites

A site is a documentation tree with the index of its tags. It is built from a directory of feature
files and printed as one JSON value.

## Main definitions

* `Site`, `Site.toJson?`, `Site.print`: sites and their JSON
* `SiteBuilder`: what the sites of a run depend on
* `Libraries`, `buildSite`: the site of a directory under a configuration
-/

namespace FeatureDocs

/-- A documentation tree and the index of its tags. -/
structure Site where
  root : DocTree
  index : TagIndex
  deriving Repr

/-- Why there is no site, or no print of it. -/
inductive SiteError where
  /-- The tree cannot be built. -/
  | build (e : BuildError)
  /-- The step definitions cannot be indexed. -/
  | stepIndex (e : IndexingError)
  /-- Some path is no text. -/
  | serialise
  deriving DecidableEq, Repr

/-- The reason for which a site cannot be printed. -/
def serialiseReason : String := "path contains invalid UTF-8 characters"

/-- The text of an error. -/
def SiteError.message : SiteError → String
  | build (.io path cause) => "I/O error at " ++ path.display ++ ": " ++ cause.message
  | build (.stepMatch e) => e.text
  | stepIndex e => e.message
  | serialise => "failed to serialise documentation site: " ++ serialiseReason

/-- The text of an error and the texts of its causes, each the cause of the one before. -/
def SiteError.chain (e : SiteError) : List String :=
  e.message ::
    match e with
    | build (.io _ cause) => [cause.message]
    | build (.stepMatch _) => []
    | stepIndex (.read _ (.file cause)) => [cause.message]
    | stepIndex (.read _ (.walk path cause)) =>
      [(SourceReadError.walk path cause).message, cause.message]
    | stepIndex _ => []
    | serialise => [serialiseReason]

namespace Site

/-- The site of a tree. -/
def ofTree (root : DocTree) : Site := ⟨root, .ofScenarios root.scenarios⟩

/-- The JSON form of a site: the tree, and the index beside it. -/
def toJson? (site : Site) : Option Json := do
  let root ← site.root.toJson?
  let index ← site.index.jsonMembers?
  return .object (("root", root) :: index)

/-- The printed form of a site. -/
def print (pretty : Bool) (site : Site) : Except SiteError String :=
  match site.toJson? with
  | none => .error .serialise
  | some v => .ok (if pretty then v.pretty else v.compact)

end Site

/-- What the sites of a run depend on. -/
structure SiteBuilder where
  grammar : Grammar
  /-- The renderer of descriptions. -/
  render : String → String
  matcher : Matcher
  addTags : Bool

/-- The libraries that the sites of a configuration are made with. -/
structure Libraries where
  /-- The reader of features. -/
  feature? : String → Option Gherkin.Feature
  /-- The renderer of descriptions. -/
  render : String → String
  /-- The reader of step sources. -/
  items? : Code.SourceReader
  /-- The limit on the expressions of step patterns. -/
  fits : SizeLimit

namespace SiteBuilder

/-- The builder of a configuration, with the registry of its sources as the matcher. -/
def ofConfig (lib : Libraries) (disk : Disk) (config : Configuration) :
    Except IndexingError SiteBuilder :=
  (Registry.ofSources lib.items? lib.fits disk config.steps).map fun registry =>
    ⟨.ofFeatures lib.feature?, lib.render, registry.matcher, config.addImplementedTags⟩

/-- The builder of the tree of a root, which is seen from the directory above it. -/
def treeBuilder (p : SiteBuilder) (root output : Path) : TreeBuilder where
  grammar := p.grammar
  render := p.render
  matcher := p.matcher
  addTags := p.addTags
  outputRoot := output
  baseDirectory := root.parent?.getD ⟨[]⟩

/-- The site of a root, to be written under an output root. -/
def build (p : SiteBuilder) (disk : Disk) (root output : Path) : Except BuildError Site :=
  ((p.treeBuilder root output).build disk root).map Site.ofTree

end SiteBuilder

/-- The site of a root under a configuration. The step definitions are indexed before the root is
looked at. -/
def buildSite (lib : Libraries) (disk : Disk) (config : Configuration) (root output : Path) :
    Except SiteError Site :=
  match SiteBuilder.ofConfig lib disk config with
  | .error e => .error (.stepIndex e)
  | .ok p =>
    match p.build disk root output with
    | .error e => .error (.build e)
    | .ok site => .ok site

end FeatureDocs
