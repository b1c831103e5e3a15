import FeatureDocs.Path
import FeatureDocs.Text.Blank
import FeatureDocs.Text.Lowercase

/-!
# Configuration

A run is configured by three environment variables and by what the command line puts over them. A
variable whose value is no text counts as unset, except for the list of sources, which is a list
of paths and need not be text.

## Main definitions

* `LogLevel`, `LogLevel.parse`: the levels of the log
* `Configuration`, `Configuration.ofEnvironment`, `Configuration.override`: configurations
-/

namespace FeatureDocs

/-- A setting is not valid; the reason. -/
inductive SettingError where
  | unknownLogLevel (value : String)
  /-- The value of the flag, trimmed and in lower case. -/
  | invalidFlag (value : String)
  deriving DecidableEq, Repr

/-- The text of an error. -/
def SettingError.message (e : SettingError) : String :=
  "invalid configuration: " ++
    match e with
    | unknownLogLevel value =>
      "unknown log level '" ++ value ++ "', expected one of: trace, debug, info, warn, error"
    | invalidFlag value =>
      "invalid boolean '" ++ value ++ "' for BDD_DOCS_ADD_IMPLEMENTED_TAGS"

/-- The levels of the log, the most verbose first. -/
inductive LogLevel where
  | trace
  | debug
  | info
  | warn
  | error
  deriving DecidableEq, Repr

namespace LogLevel

/-- The rank of a level; a higher one is more severe. -/
def severity : LogLevel → Nat
  | trace => 0
  | debug => 1
  | info => 2
  | warn => 3
  | error => 4

/-- The name of a level in a filter. -/
def filter : LogLevel → String
  | trace => "trace"
  | debug => "debug"
  | info => "info"
  | warn => "warn"
  | error => "error"

/-- The name of a level in the log. -/
def label : LogLevel → String
  | trace => "TRACE"
  | debug => "DEBUG"
  | info => "INFO"
  | warn => "WARN"
  | error => "ERROR"

/-- The level of a lower-case word. -/
def ofWord? : String → Option LogLevel
  | "trace" => some .trace
  | "debug" => some .debug
  | "info" => some .info
  | "warn" | "warning" => some .warn
  | "error" => some .error
  | _ => none

/-- Reads a level in any case. -/
def parse (value : String) : Except SettingError LogLevel :=
  match ofWord? value.lowercase with
  | some level => .ok level
  | none => .error (.unknownLogLevel value)

end LogLevel

/-- The flag of a lower-case word; the empty word says no. -/
def flagOfWord? : String → Option Bool
  | "1" | "true" | "yes" | "on" => some true
  | "0" | "false" | "no" | "off" | "" => some false
  | _ => none

/-- Reads a flag in any case, between blank characters. -/
def readFlag (value : String) : Except SettingError Bool :=
  let word := value.trimBlank.lowercase
  match flagOfWord? word with
  | some flag => .ok flag
  | none => .error (.invalidFlag word)

/-- The values of the three variables, as bytes. -/
structure Environment where
  logLevel : Option (List UInt8)
  addImplementedTags : Option (List UInt8)
  steps : Option (List UInt8)
  deriving DecidableEq, Repr

/-- The text of a value, if there is a value and it is text. -/
def Environment.text? (value : Option (List UInt8)) : Option String :=
  (value.bind Utf8.decode?).map String.ofList

/-- The paths of a list; `current` holds the bytes of the present path, latest first. A colon
separates paths, so even the empty list is one path. -/
def splitPathsFrom (current : List UInt8) : List UInt8 → List Path
  | [] => [⟨current.reverse⟩]
  | b :: s =>
    if b = 0x3A then ⟨current.reverse⟩ :: splitPathsFrom [] s else splitPathsFrom (b :: current) s

/-- The paths of a list. -/
def splitPaths (list : List UInt8) : List Path := splitPathsFrom [] list

/-- The configuration of a run. -/
structure Configuration where
  /-- The sources of step definitions. -/
  steps : List Path
  /-- Steps and blocks are tagged as implemented or not. -/
  addImplementedTags : Bool
  logLevel : LogLevel
  deriving DecidableEq, Repr

namespace Configuration

/-- The configuration of a run for which nothing is set. -/
def default : Configuration := ⟨[], false, .info⟩

/-- The configuration of an environment. The log level is looked at first. -/
def ofEnvironment (env : Environment) : Except SettingError Configuration := do
  let logLevel ←
    match Environment.text? env.logLevel with
    | some value => LogLevel.parse value
    | none => pure default.logLevel
  let addImplementedTags ←
    match Environment.text? env.addImplementedTags with
    | some value => readFlag value
    | none => pure default.addImplementedTags
  return { steps := (env.steps.map splitPaths).getD [], addImplementedTags, logLevel }

/-- The configuration with some settings replaced, and with more sources. -/
def override (config : Configuration) (logLevel : Option LogLevel)
    (addImplementedTags : Option Bool) (steps : List Path) : Configuration where
  steps := config.steps ++ steps
  addImplementedTags := addImplementedTags.getD config.addImplementedTags
  logLevel := logLevel.getD config.logLevel

end Configuration

end FeatureDocs
