import FeatureDocs.Config

/-!
# The command line

The words of a command line are read from left to right. A word that starts with `-` is an option,
unless it is nothing else; every other word is the directory of the features, of which there is
exactly one. Behind a word `--` there are no options. An option takes its value from its own word
or from the next one, and only the list of sources may be given more than once. A request for the
version or the help counts as soon as it is met.

## Main definitions

* `Arguments`, `Request`: what a command line asks for
* `Request.ofWords?`: the request of a command line, unless that is malformed
-/

namespace FeatureDocs

/-- A word of a command line. -/
abbrev Word := List UInt8

/-- What a run is told on the command line. -/
structure Arguments where
  /-- The directory of the features. -/
  features : Path
  /-- The output root. -/
  output : Path
  /-- The sources of step definitions. -/
  steps : List Path
  addImplementedTags : Bool
  logLevel : Option LogLevel
  /-- The site is printed without blanks. -/
  compact : Bool
  deriving DecidableEq, Repr

/-- What a command line asks for. -/
inductive Request where
  | version
  | help
  | build (arguments : Arguments)
  deriving DecidableEq, Repr

/-- The options that take a value. -/
inductive ValueOption where
  | output
  | steps
  | logLevel
  deriving DecidableEq, Repr

/-- The options that take none. -/
inductive Flag where
  | addImplementedTags
  | compact
  deriving DecidableEq, Repr

/-- What an option is for. -/
inductive OptionKind where
  | version
  | help
  | flag (f : Flag)
  | value (o : ValueOption)
  deriving DecidableEq, Repr

namespace OptionKind

/-- The option of a long name. -/
def ofLongName? : String → Option OptionKind
  | "version" => some .version
  | "help" => some .help
  | "add-implemented-tags" => some (.flag .addImplementedTags)
  | "compact" => some (.flag .compact)
  | "output" => some (.value .output)
  | "steps" => some (.value .steps)
  | "log-level" => some (.value .logLevel)
  | _ => none

/-- The option of a short name. -/
def ofShortName? : Char → Option OptionKind
  | 'V' => some .version
  | 'h' => some .help
  | 'o' => some (.value .output)
  | _ => none

end OptionKind

/-- The kinds of word. -/
inductive WordKind where
  /-- No options follow. -/
  | separator
  /-- An option, with the value in its own word. -/
  | option (kind : OptionKind) (attached : Option Word)
  /-- An option that is not known. -/
  | unknown
  | operand
  deriving DecidableEq, Repr

namespace Word

/-- The byte of a hyphen. -/
def hyphen : UInt8 := 0x2D

/-- The byte of an equals sign. -/
def equals : UInt8 := 0x3D

/-- The word starts like an option. -/
def isOptionLike (w : Word) : Bool := w.head? == some hyphen && w.length != 1

/-- A long option; the value stands behind an equals sign. -/
def longKind (w : Word) : WordKind :=
  let attached :=
    match w.dropWhile (· != equals) with
    | [] => none
    | _ :: value => some value
  match Utf8.decode? (w.takeWhile (· != equals)) with
  | none => .unknown
  | some name =>
    match OptionKind.ofLongName? (String.ofList name) with
    | none => .unknown
    | some kind => .option kind attached

/-- A short option; the value stands behind its name, with or without an equals sign. -/
def shortKind (name : UInt8) (w : Word) : WordKind :=
  match OptionKind.ofShortName? (Char.ofNat name.toNat) with
  | none => .unknown
  | some (.value o) =>
    .option (.value o)
      (if w.isEmpty then none else if w.head? == some equals then some w.tail else some w)
  | some kind => .option kind none

/-- The kind of a word. -/
def kind (w : Word) : WordKind :=
  if w.isOptionLike then
    match w.tail with
    | [] => .operand
    | c :: rest =>
      if c = hyphen then if rest.isEmpty then .separator else longKind rest else shortKind c rest
  else .operand

end Word

/-- What has been read of a command line. -/
structure PartialArguments where
  features : Option Path
  output : Option Path
  steps : List Path
  addImplementedTags : Bool
  logLevel : Option LogLevel
  compact : Bool
  deriving DecidableEq, Repr

namespace PartialArguments

/-- Nothing has been read. -/
def empty : PartialArguments := ⟨none, none, [], false, none, false⟩

/-- The path of a word, which must not be empty. -/
def path? (w : Word) : Option Path := if w.isEmpty then none else some ⟨w⟩

/-- The log level of a word. -/
def logLevel? (w : Word) : Option LogLevel :=
  (Utf8.decode? w).bind fun text => (LogLevel.parse (String.ofList text)).toOption

/-- The directory of the features is set, for the first time. -/
def setFeatures (p : PartialArguments) (w : Word) : Option PartialArguments :=
  if p.features.isSome then none
  else (path? w).map fun features => { p with features := some features }

/-- A flag is set, for the first time. -/
def setFlag (p : PartialArguments) : Flag → Option PartialArguments
  | .addImplementedTags =>
    if p.addImplementedTags then none else some { p with addImplementedTags := true }
  | .compact => if p.compact then none else some { p with compact := true }

/-- An option is given a value. -/
def setValue (p : PartialArguments) (o : ValueOption) (w : Word) : Option PartialArguments :=
  match o with
  | .output =>
    if p.output.isSome then none
    else (path? w).map fun output => { p with output := some output }
  | .steps => (path? w).map fun source => { p with steps := p.steps ++ [source] }
  | .logLevel =>
    if p.logLevel.isSome then none
    else (logLevel? w).map fun level => { p with logLevel := some level }

/-- The output root when none is given. -/
def defaultOutput : Path := .ofString "docs"

/-- The request of a command line that has been read to its end. -/
def request? (p : PartialArguments) : Option Request :=
  p.features.map fun features =>
    .build
      { features
        output := p.output.getD defaultOutput
        steps := p.steps
        addImplementedTags := p.addImplementedTags
        logLevel := p.logLevel
        compact := p.compact }

end PartialArguments

namespace Request

/-- Reads words among which there are no options. -/
def ofOperands? (p : PartialArguments) : List Word → Option Request
  | [] => p.request?
  | w :: ws => (p.setFeatures w).bind fun p => ofOperands? p ws

/-- Reads the rest of a command line. -/
def ofRest? (p : PartialArguments) : List Word → Option Request
  | [] => p.request?
  | w :: ws =>
    match w.kind with
    | .separator => ofOperands? p ws
    | .unknown => none
    | .operand => (p.setFeatures w).bind fun p => ofRest? p ws
    | .option .version none => some .version
    | .option .help none => some .help
    | .option (.flag f) none => (p.setFlag f).bind fun p => ofRest? p ws
    | .option (.value o) (some value) => (p.setValue o value).bind fun p => ofRest? p ws
    | .option (.value o) none =>
      match ws with
      | [] => none
      | value :: ws =>
        if Word.isOptionLike value then none
        else (p.setValue o value).bind fun p => ofRest? p ws
    | .option _ (some _) => none

/-- The request of a command line, unless that is malformed. -/
def ofWords? (words : List Word) : Option Request := ofRest? .empty words

end Request

end FeatureDocs
