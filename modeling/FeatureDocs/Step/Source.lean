import FeatureDocs.Step.Registry

/-!
# Sources of step definitions

A source is a file, or a directory that is searched for files with the extension `rs`, the entries
of each directory in the order of the bytes of their names. A source that is a file counts
whatever its extension. Links are not followed, except that a source may itself be a link to a
directory.

## Main definitions

* `sourceFiles`: the files of a source
* `Registry.ofSources`: the registry of the definitions of several sources
-/

namespace FeatureDocs

/-- A file found in a source: its path, and the bytes it holds or the reason why it cannot be
read. -/
structure SourceFile where
  path : Path
  content : Except OsError (List UInt8)

/-- A walk fails at a path. -/
structure WalkError where
  path : Path
  cause : OsError
  deriving DecidableEq, Repr

/-- The order of names by their bytes. -/
def nameLe : Name → Name → Bool
  | [], _ => true
  | _ :: _, [] => false
  | a :: s, b :: t => a < b || (a == b && nameLe s t)

/-- The path has the extension of a source file. -/
def isSourcePath (p : Path) : Bool := p.extension? == some (Utf8.encode ['r', 's'])

/-- Joins what walks through the entries of a directory have found, given by name and with the
names in order; the first failure counts. -/
def collectWalks (found : List (Name × Except WalkError (List SourceFile))) :
    Except WalkError (List SourceFile) :=
  ((found.mergeSort fun a b => nameLe a.1 b.1).mapM Prod.snd).map List.flatten

mutual

/-- The source files in an entry below a source, which is found at `path`. -/
def walkEntry (path : Path) : Entry → Except WalkError (List SourceFile)
  | .file content => .ok (if isSourcePath path then [⟨path, .ok content⟩] else [])
  | .directory entries => collectWalks (walkEntries path entries)
  | .link _ => .ok []
  | .denied .list => .error ⟨path, .permissionDenied⟩
  | .denied _ => .ok (if isSourcePath path then [⟨path, .error .permissionDenied⟩] else [])

/-- What the walks through the entries of the directory at `path` find. -/
def walkEntries (path : Path) :
    List (Name × Entry) → List (Name × Except WalkError (List SourceFile))
  | [] => []
  | entry :: entries => walkNamed path entry :: walkEntries path entries

/-- What the walk through one entry of the directory at `path` finds. -/
def walkNamed (path : Path) : Name × Entry → Name × Except WalkError (List SourceFile)
  | (n, e) => (n, walkEntry (path.entry n) e)

end

/-- The files of a source. -/
def sourceFiles (disk : Disk) (source : Path) : Except WalkError (List SourceFile) :=
  match disk.inspect source with
  | .error e => .error ⟨source, e⟩
  | .ok (_, .file content) => .ok [⟨source, .ok content⟩]
  | .ok (_, .denied .read) => .ok [⟨source, .error .permissionDenied⟩]
  | .ok (_, .link _) =>
    match disk.follow source with
    | .error e => .error ⟨source, e⟩
    | .ok e => if e.isDirectory then walkEntry source e else .ok []
  | .ok (_, e) => walkEntry source e

namespace Registry

variable (read : Code.SourceReader) (fits : SizeLimit)

/-- The step definitions of a file that has been found. -/
def indexFound (file : SourceFile) : Except IndexingError SourceIndex :=
  match file.content >>= Disk.textOf with
  | .error e => .error (.read file.path (.file e))
  | .ok source => indexSource read file.path source

/-- The registry with the definitions of more files. -/
def addFiles (r : Registry) : List SourceFile → Except IndexingError Registry
  | [] => .ok r
  | file :: files =>
    match indexFound read file with
    | .error e => .error e
    | .ok index => (r.register fits index).1.addFiles files

/-- The registry with the definitions of more sources. -/
def addSources (disk : Disk) (r : Registry) : List Path → Except IndexingError Registry
  | [] => .ok r
  | source :: sources =>
    match sourceFiles disk source with
    | .error e => .error (.read e.path (.walk e.path e.cause))
    | .ok files =>
      match r.addFiles read fits files with
      | .error e => .error e
      | .ok r => r.addSources disk sources

/-- The registry of the definitions of several sources. -/
def ofSources (disk : Disk) (sources : List Path) : Except IndexingError Registry :=
  empty.addSources read fits disk sources

end Registry

end FeatureDocs
