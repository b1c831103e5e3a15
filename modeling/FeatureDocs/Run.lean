import FeatureDocs.CommandLine
import FeatureDocs.Gherkin.Grammar
import FeatureDocs.Log
import FeatureDocs.Markdown.Html
import FeatureDocs.Pattern.Footprint

/-!
# A run of the program

A run reads its command line, then its environment, then its sources and features, and prints the
site. The first stage that fails ends it, and a failed run prints nothing.

## Main definitions

* `Outcome`: what a run leaves behind
* `run`: the outcome of a command line
* `Libraries.standard`: the libraries of the program
-/

namespace FeatureDocs

/-- What a run leaves behind. -/
structure Outcome where
  status : Nat
  /-- What is printed. -/
  output : String
  /-- The events that the log shows. -/
  log : List LogEvent
  /-- The reason of a failure, and the reasons of that. -/
  errors : List String
  deriving DecidableEq, Repr

namespace Outcome

/-- A run that prints something. -/
def printed (output : String) (log : List LogEvent) : Outcome := ⟨0, output, log, []⟩

/-- A run that fails. -/
def failed (log : List LogEvent) (errors : List String) : Outcome := ⟨1, "", log, errors⟩

/-- A run whose command line is malformed. -/
def refused : Outcome := ⟨2, "", [], []⟩

end Outcome

/-- The name and the version of the program. -/
def versionText : String := "bdd-docs 0.1.0\n"

/-- The lines of the help. -/
def helpLines : List String := [
  "Builds navigable, tag-indexed documentation trees from Gherkin feature directories",
  "",
  "Usage: bdd-docs [OPTIONS] <FEATURES>",
  "",
  "Arguments:",
  "  <FEATURES>  Directory containing \x60.feature\x60 files",
  "",
  "Options:",
  "  -o, --output <OUTPUT>        Output root mirrored by the tree's write paths [default: docs]",
  "      --steps <PATH>           Rust file or directory holding step definitions (repeatable)",
  "      --add-implemented-tags   Append \x60Implemented\x60 / \x60Not Implemented\x60 tags to " ++
    "steps and scenarios",
  "      --log-level <LOG_LEVEL>  Log level (trace, debug, info, warn, error)",
  "      --compact                Emit compact rather than pretty-printed JSON",
  "  -h, --help                   Print help",
  "  -V, --version                Print version"]

/-- The help of the program. -/
def helpText : String := String.join (helpLines.map (· ++ "\n"))

/-- The configuration of a run: the environment, with the arguments over it. -/
def Arguments.config (a : Arguments) (env : Environment) : Except SettingError Configuration :=
  (Configuration.ofEnvironment env).map fun config =>
    config.override a.logLevel (if a.addImplementedTags then some true else none) a.steps

/-- The context of a failure to build a site. -/
def Arguments.buildContext (a : Arguments) : String :=
  "failed to build documentation for " ++ a.features.display

/-- Builds and prints a site under a configuration. -/
def Arguments.build (a : Arguments) (lib : Libraries) (disk : Disk) (config : Configuration) :
    Outcome :=
  let log := (.started :: siteEvents lib disk config a.features a.output).filter
    (LogEvent.isShown config.logLevel)
  match buildSite lib disk config a.features a.output with
  | .error e => .failed log (a.buildContext :: e.chain)
  | .ok site =>
    match site.print !a.compact with
    | .error e => .failed log e.chain
    | .ok text => .printed (text ++ "\n") log

/-- The outcome of a command line. -/
def run (lib : Libraries) (disk : Disk) (env : Environment) (words : List Word) : Outcome :=
  match Request.ofWords? words with
  | none => .refused
  | some .version => .printed versionText []
  | some .help => .printed helpText []
  | some (.build a) =>
    match a.config env with
    | .error e => .failed [] ["invalid configuration", e.message]
    | .ok config => a.build lib disk config

/-- The libraries of the program. -/
def Libraries.standard : Libraries where
  feature? := Gherkin.Feature.parse?
  render := Markdown.toHtml
  items? := Code.Item.ofSource?
  fits := .estimated

end FeatureDocs
