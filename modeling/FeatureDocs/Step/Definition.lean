import FeatureDocs.Disk
import FeatureDocs.Code.Item
import FeatureDocs.Step.Keyword

/-!
# Step definitions

A step definition is a free function with one of the attributes `given`, `when` and `then`, by
whatever path. The attribute may hold the pattern as a string literal. If it holds nothing, or
only blank characters, the pattern is the name of the function with blanks for underscores; the
empty literal is a pattern of its own.

## Main definitions

* `QualifiedName`, `StepDefinition`, `SourceIndex`: what is found in a source
* `IndexingError`: why a source is refused
* `indexSource`, `indexFile`: the definitions of a text and of a file
-/

namespace FeatureDocs

/-- A function and the inline modules around it, outermost first. -/
structure QualifiedName where
  modulePath : List String
  name : String
  deriving DecidableEq, Repr

/-- The name of a function with its modules in front. -/
def QualifiedName.qualified (f : QualifiedName) : String :=
  String.join (f.modulePath.map (· ++ "::")) ++ f.name

/-- A step definition. -/
structure StepDefinition where
  keyword : Keyword
  pattern : String
  /-- The pattern was derived from the name of the function. -/
  patternInferred : Bool
  function : QualifiedName
  /-- The line of the keyword `fn`, from one. -/
  line : Nat
  deriving DecidableEq, Repr

/-- The step definitions of a source, in order. -/
structure SourceIndex where
  path : Path
  stepDefinitions : List StepDefinition
  deriving DecidableEq, Repr

/-- What is wrong with the arguments of a step attribute. -/
inductive ArgumentFault where
  /-- The list does not start with a string literal. -/
  | noLiteral
  /-- Something follows the literal. -/
  | trailing
  /-- The value is no string literal. -/
  | noLiteralValue
  deriving DecidableEq, Repr

/-- The text of a fault. -/
def ArgumentFault.message : ArgumentFault → String
  | noLiteral => "expected string literal"
  | trailing => "unexpected token"
  | noLiteralValue => "expected string literal value"

/-- Why a read of a source of step definitions fails. -/
inductive SourceReadError where
  /-- The file could not be read. -/
  | file (e : OsError)
  /-- The walk through a directory failed at a path. -/
  | walk (path : Path) (e : OsError)
  deriving DecidableEq, Repr

/-- The text of a failed read. -/
def SourceReadError.message : SourceReadError → String
  | file e => e.message
  | walk path e => "IO error for operation on " ++ path.display ++ ": " ++ e.message

/-- Why step definitions cannot be indexed. -/
inductive IndexingError where
  /-- A source cannot be read. -/
  | read (path : Path) (e : SourceReadError)
  /-- A source is no Rust source. -/
  | parse (path : Path)
  /-- A function has more than one step attribute. -/
  | multipleAttributes (function : String)
  /-- A step attribute has arguments other than one string literal. -/
  | invalidArguments (function attributeName : String) (fault : ArgumentFault)
  deriving DecidableEq, Repr

/-- The text of an error. -/
def IndexingError.message : IndexingError → String
  | read path e => "failed to read step source " ++ path.display ++ ": " ++ e.message
  | parse path => "failed to parse rust source " ++ path.display
  | multipleAttributes function =>
    "step function '" ++ function ++ "' has multiple step attributes"
  | invalidArguments function attributeName fault =>
    "invalid arguments for #[" ++ attributeName ++ "] on step function '" ++ function ++ "': " ++
      fault.message

/-- The keyword that the attribute `given`, `when` or `then` stands for. -/
def Keyword.ofAttribute? : String → Option Keyword
  | "given" => some .given
  | "when" => some .when
  | "then" => some .then
  | _ => none

/-- A step attribute: its name and keyword, and its arguments. -/
structure DefiningAttribute where
  name : String
  keyword : Keyword
  arguments : Code.Arguments

/-- The step attribute that an attribute is, by the last segment of its path. -/
def DefiningAttribute.ofAttribute? (a : Code.Attribute) : Option DefiningAttribute := do
  let name ← a.path.getLast?
  let keyword ← Keyword.ofAttribute? name
  return ⟨name, keyword, a.arguments⟩

/-- The pattern that a function name stands for. -/
def patternOfName (function : String) : String :=
  function.map fun c => if c == '_' then ' ' else c

/-- The pattern that a literal stands for, and whether it comes from the function name: a literal
of blank characters alone, though not the empty one, leaves the pattern to the name. -/
def patternOfLiteral (function literal : String) : String × Bool :=
  if !literal.isEmpty && Text.allBlank literal.toList then (patternOfName function, true)
  else (literal, false)

/-- The pattern that the arguments of a step attribute stand for, and whether it comes from the
function name. -/
def patternOfArguments (function : String) :
    Code.Arguments → Except ArgumentFault (String × Bool)
  | .absent | .list [] => .ok (patternOfName function, true)
  | .list [.text literal] => .ok (patternOfLiteral function literal)
  | .list (.text _ :: _) => .error .trailing
  | .list _ => .error .noLiteral
  | .value [.text literal] => .ok (patternOfLiteral function literal)
  | .value _ => .error .noLiteralValue

/-- The line of a place in a source, from one; `rest` is the source from that place on. -/
def lineOf (source rest : List Char) : Nat := 1 + source.count '\n' - rest.count '\n'

/-- The step definition that a function is, if it has a step attribute. -/
def definitionOf (source : List Char) (modulePath : List String)
    (attributes : List Code.Attribute) (name : String) (rest : List Char) :
    Except IndexingError (Option StepDefinition) :=
  match attributes.filterMap DefiningAttribute.ofAttribute? with
  | [] => .ok none
  | [a] =>
    match patternOfArguments name a.arguments with
    | .ok (pattern, patternInferred) =>
      .ok (some {
        keyword := a.keyword
        pattern
        patternInferred
        function := ⟨modulePath, name⟩
        line := lineOf source rest })
    | .error fault => .error (.invalidArguments name a.name fault)
  | _ => .error (.multipleAttributes name)

mutual

/-- The step definitions of an item inside the given modules. -/
def definitionsOfItem (source : List Char) (modulePath : List String) :
    Code.Item → Except IndexingError (List StepDefinition)
  | .function attributes name rest =>
    (definitionOf source modulePath attributes name rest).map Option.toList
  | .module name items => definitionsOfItems source (modulePath ++ [name]) items
  | .other => .ok []

/-- The step definitions of items inside the given modules, in source order. -/
def definitionsOfItems (source : List Char) (modulePath : List String) :
    List Code.Item → Except IndexingError (List StepDefinition)
  | [] => .ok []
  | item :: items =>
    match definitionsOfItem source modulePath item with
    | .error e => .error e
    | .ok ds => (definitionsOfItems source modulePath items).map (ds ++ ·)

end

/-- The step definitions of a text. -/
def indexSource (read : Code.SourceReader) (path : Path) (source : String) :
    Except IndexingError SourceIndex :=
  match read source.toList with
  | none => .error (.parse path)
  | some items => (definitionsOfItems source.toList [] items).map fun ds => ⟨path, ds⟩

/-- The step definitions of a file. -/
def indexFile (read : Code.SourceReader) (disk : Disk) (path : Path) :
    Except IndexingError SourceIndex :=
  match disk.readText path with
  | .error e => .error (.read path (.file e))
  | .ok source => indexSource read path source

end FeatureDocs
