import FeatureDocs.Run

/-!
# The program

The program finds out which paths a run will look at, takes down what the file tree holds there,
and leaves the rest to `run`. What it prints goes to the standard output, its log and its errors to
the standard error output.
-/

namespace FeatureDocs

/-- What has been taken down of the file tree. -/
structure Survey where
  root : Entry
  /-- The files whose content is still to be read, whatever their names. -/
  pending : List (List Name)

namespace Survey

/-- A place as the system spells it. -/
def spell (place : List Name) : String :=
  "/" ++ String.intercalate "/" (place.map Path.displayName)

/-- The survey with an entry at a place. -/
def record (s : Survey) (place : List Name) (e : Entry) : Survey :=
  { s with root := Entry.insert e place s.root }

/-- The survey with one more file to be read. -/
def await (s : Survey) (place : List Name) : Survey := { s with pending := place :: s.pending }

/-- The pieces of a path that are neither empty nor `.`. -/
def solidPieces (s : String) : List Name :=
  (Path.pieces (Utf8.encode s.toList)).filter fun n => !Path.isVoid n

/-- A target that does not exist. -/
def danglingTarget : String := "/\x00"

/-- The absolute path to which the link at a place leads in the end. -/
def linkTarget (place : List Name) : IO String := do
  try
    let target := (← IO.FS.realPath (spell place)).toString
    return if target == spell place then danglingTarget else target
  catch _ => return danglingTarget

/-- The kind of the entry at a place, links not followed; there may be none. -/
def kindAt? (place : List Name) : IO (Option IO.FS.FileType) := do
  try return some (← (System.mkFilePath [spell place]).symlinkMetadata).type
  catch _ => return none

/-- The file at a place. -/
def readFileAt (place : List Name) : IO Entry := do
  try return .file (← IO.FS.readBinFile (spell place)).toList
  catch _ => return .denied .read

/-- The name is that of a file whose content counts wherever it is found. -/
def hasContent (name : Name) : Bool :=
  isFeatureName (Path.displayName name) || isSourcePath ⟨name⟩

/-- The entry at a place with all below it, and the targets of the links in it. -/
partial def readEntry (place : List Name) (name : Name) :
    IO (Option (Entry × List (List Name))) := do
  match ← kindAt? place with
  | none => return none
  | some .dir =>
    try
      let mut entries := #[]
      let mut targets := []
      for found in ← (System.mkFilePath [spell place]).readDir do
        let name := Utf8.encode found.fileName.toList
        if let some (e, ts) ← readEntry (place ++ [name]) name then
          entries := entries.push (name, e)
          targets := targets ++ ts
      return some (.directory entries.toList, targets)
    catch _ => return some (.denied .list, [])
  | some .symlink =>
    let target ← linkTarget place
    return some (.link (.ofString target), [solidPieces target])
  | some .file =>
    return some (← if hasContent name then readFileAt place else pure (.file []), [])
  | some .other => return some (.file [], [])

/-- Takes down what the pieces of a path lead to from a place, following at most `links`
links. -/
partial def follow (s : Survey) (links : Nat) (place : List Name) : List Name → IO Survey
  | [] => do
    match ← kindAt? place with
    | some .dir =>
      match ← readEntry place [] with
      | some (e, targets) => return targets.foldl await (s.record place e)
      | none => return s
    | some _ => return s.await place
    | none => return s
  | n :: rest => do
    if Path.isVoid n then follow s links place rest
    else if n == upName then follow s links place.dropLast rest
    else
      let here := place ++ [n]
      match ← kindAt? here with
      | none => return s
      | some .symlink =>
        let target ← linkTarget here
        let s := s.record here (.link (.ofString target))
        if links = 0 then return s else follow s (links - 1) [] (solidPieces target ++ rest)
      | some _ => follow s links here rest

/-- Takes down the files that are still to be read. -/
def finish (s : Survey) : IO Survey := do
  let mut s := s
  for place in s.pending do
    match ← kindAt? place with
    | some .dir =>
      if !(s.root.descend place).isOk then s := s.record place (.directory [])
    | some _ => s := s.record place (← readFileAt place)
    | none => pure ()
  return s

/-- Takes down what the paths lead to. -/
def ofPaths (paths : List Path) : IO Disk := do
  let workingDirectory := solidPieces (← IO.currentDir).toString
  let mut s : Survey := ⟨Entry.insert (.directory []) workingDirectory (.directory []), []⟩
  for p in paths do
    s ← s.follow Disk.maxLinks (if p.isAbsolute then [] else workingDirectory) (Path.pieces p.bytes)
  return ⟨(← s.finish).root, workingDirectory⟩

end Survey

/-- The environment of the program. -/
def readEnvironment : IO Environment := do
  let setting (name : String) : IO (Option (List UInt8)) :=
    return (← IO.getEnv name).map fun value => Utf8.encode value.toList
  return ⟨← setting "BDD_DOCS_LOG_LEVEL", ← setting "BDD_DOCS_ADD_IMPLEMENTED_TAGS",
    ← setting "BDD_DOCS_STEPS"⟩

/-- The paths that a run looks at. -/
def neededPaths (env : Environment) (words : List Word) : List Path :=
  match Request.ofWords? words with
  | some (.build a) =>
    match a.config env with
    | .ok config => a.features :: config.steps
    | .error _ => []
  | _ => []

/-- The lines that report an error and its causes. -/
def errorReport : List String → List String
  | [] => []
  | e :: [] => ["Error: " ++ e]
  | e :: causes => ["Error: " ++ e, "", "Caused by:"] ++ causes.map ("    " ++ ·)

end FeatureDocs

open FeatureDocs in
/-- Runs the program on its command line. -/
def main (arguments : List String) : IO UInt32 := do
  let words := arguments.map fun a => Utf8.encode a.toList
  let env ← readEnvironment
  let disk ← Survey.ofPaths (neededPaths env words)
  let outcome := run .standard disk env words
  for e in outcome.log do
    IO.eprintln e.line
  IO.print outcome.output
  for line in errorReport outcome.errors do
    IO.eprintln line
  return outcome.status.toUInt32
