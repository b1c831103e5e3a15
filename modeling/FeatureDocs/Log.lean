import FeatureDocs.Site

/-!
# The log of a run

A run tells what it does, one line for each event, and each event has a level. The log is told
beside the results and never decides on them: a function of this module follows the function whose
events it tells, up to the first failure.

## Main definitions

* `LogEvent`, `LogEvent.line`: the events and their lines
* `Registry.events`: the events of indexing step definitions
* `TreeBuilder.events`: the events of building a tree
-/

namespace FeatureDocs

/-- The events that a run tells. -/
inductive LogEvent where
  /-- The run starts. -/
  | started
  /-- The step definitions of a file have been found. -/
  | sourceIndexed
  /-- The pattern of a step definition does not compile. -/
  | definitionSkipped
  /-- All step definitions have been registered. -/
  | registryReady
  /-- A feature file cannot be read, or is no feature. -/
  | featureNotParsed
  /-- No definition matches a step. -/
  | stepUnmatched
  /-- A feature file has been annotated. -/
  | featureIndexed
  /-- The tree and its index are complete. -/
  | treeBuilt
  deriving DecidableEq, Repr

namespace LogEvent

/-- The level of an event. -/
def level : LogEvent → LogLevel
  | started | treeBuilt => .info
  | definitionSkipped | featureNotParsed => .warn
  | sourceIndexed | registryReady | stepUnmatched | featureIndexed => .debug

/-- The part of the program that tells an event. -/
def target : LogEvent → String
  | started => "bdd_docs"
  | sourceIndexed => "bdd_docs::steps::rust"
  | definitionSkipped | registryReady => "bdd_docs::steps::registry"
  | featureNotParsed | featureIndexed => "bdd_docs::tree"
  | stepUnmatched => "bdd_docs::resolver"
  | treeBuilt => "bdd_docs::processor"

/-- The text of an event. -/
def message : LogEvent → String
  | started => "starting bdd-docs"
  | sourceIndexed => "indexed step source"
  | definitionSkipped => "skipping step definition"
  | registryReady => "step registry ready"
  | featureNotParsed => "treating unparsable feature file as plain file"
  | stepUnmatched => "no step definition matched"
  | featureIndexed => "indexed feature file"
  | treeBuilt => "documentation tree built"

/-- The line of an event. -/
def line (e : LogEvent) : String := e.level.label ++ " " ++ e.target ++ ": " ++ e.message

/-- The event is shown in a log of the given level. -/
def isShown (level : LogLevel) (e : LogEvent) : Bool := level.severity ≤ e.level.severity

end LogEvent

namespace Registry

variable (read : Code.SourceReader) (fits : SizeLimit)

/-- The events of indexing files. -/
def fileEvents : List SourceFile → List LogEvent
  | [] => []
  | file :: files =>
    match indexFound read file with
    | .error _ => []
    | .ok index =>
      .sourceIndexed :: (skipped fits index).map (fun _ => .definitionSkipped) ++ fileEvents files

/-- The events of indexing sources. -/
def events (disk : Disk) : List Path → List LogEvent
  | [] => [.registryReady]
  | source :: sources =>
    match sourceFiles disk source with
    | .error _ => []
    | .ok files =>
      fileEvents read fits files ++
        if files.all fun file => (indexFound read file).isOk then events disk sources else []

end Registry

namespace TreeBuilder

/-- The events of matching steps. -/
def stepEvents (matcher : Matcher) : List Step → List LogEvent
  | [] => []
  | step :: steps =>
    match step.resolve matcher with
    | .error _ => []
    | .ok found => (if found.isMatched then [] else [.stepUnmatched]) ++ stepEvents matcher steps

/-- The events of annotating a document. -/
def documentEvents (b : TreeBuilder) (d : Document) : List LogEvent :=
  stepEvents b.matcher (d.children.flatMap Scenario.steps) ++
    if (b.annotate d).isOk then [.featureIndexed] else []

/-- The events of an entry that is no directory, given what comes of reading it. -/
def fileEvents (b : TreeBuilder) (p : Path) (text : Except OsError String) : List LogEvent :=
  match b.document? p text with
  | some d => b.documentEvents d
  | none => if isFeatureName (shownName p) then [.featureNotParsed] else []

mutual

/-- The events of building the node of an entry. -/
def entryEvents (b : TreeBuilder) (disk : Disk) (p : Path) : Entry → List LogEvent
  | .directory entries => entriesEvents b disk p entries
  | .denied .inspect | .denied .list => []
  | .file _ | .link _ | .denied .read => b.fileEvents p (disk.readText p)

/-- The events of building the nodes of the entries of a directory. -/
def entriesEvents (b : TreeBuilder) (disk : Disk) (p : Path) : List (Name × Entry) → List LogEvent
  | [] => []
  | entry :: entries =>
    namedEvents b disk p entry ++
      if (b.buildNamed disk p entry).isOk then entriesEvents b disk p entries else []

/-- The events of building the node of one entry of a directory. -/
def namedEvents (b : TreeBuilder) (disk : Disk) (p : Path) : Name × Entry → List LogEvent
  | (n, e) => entryEvents b disk (p.entry n) e

end

/-- The events of building the tree of a path. -/
def events (b : TreeBuilder) (disk : Disk) (p : Path) : List LogEvent :=
  match disk.inspect p with
  | .error _ => []
  | .ok (_, e) => b.entryEvents disk p e

end TreeBuilder

/-- The events of building the site of a root under a configuration. -/
def siteEvents (lib : Libraries) (disk : Disk) (config : Configuration)
    (root output : Path) : List LogEvent :=
  Registry.events lib.items? lib.fits disk config.steps ++
    match SiteBuilder.ofConfig lib disk config with
    | .error _ => []
    | .ok p =>
      (p.treeBuilder root output).events disk root ++
        if (p.build disk root output).isOk then [.treeBuilt] else []

end FeatureDocs
