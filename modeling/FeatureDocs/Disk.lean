import FeatureDocs.Path

/-!
# File trees

A disk is a finite tree of files, directories and symbolic links together with a working
directory. Names are looked up piece by piece, as the system does: a link is followed wherever
something comes after it, a `/` included, and at the end of a path only on request.

## Main definitions

* `Entry`, `Disk`: file trees
* `OsError`: the ways in which the system refuses
* `Disk.inspect`, `Disk.follow`, `Disk.readText`: an entry without and with following a link at the
  end; the text of a file
-/

namespace FeatureDocs

/-- Why the system refuses an operation on a file. -/
inductive OsError where
  | notFound
  | permissionDenied
  | notDirectory
  | isDirectory
  | tooManyLinks
  /-- The file was read, but is not a text. -/
  | notText
  deriving DecidableEq, Repr

/-- The text of a refusal. -/
def OsError.message : OsError → String
  | notFound => "No such file or directory (os error 2)"
  | permissionDenied => "Permission denied (os error 13)"
  | notDirectory => "Not a directory (os error 20)"
  | isDirectory => "Is a directory (os error 21)"
  | tooManyLinks => "Too many levels of symbolic links (os error 40)"
  | notText => "stream did not contain valid UTF-8"

/-- What may be done with an entry. -/
inductive Operation where
  | inspect
  | list
  | read
  deriving DecidableEq, Repr

/-- The entries of a file tree. -/
inductive Entry where
  /-- A file and its bytes. -/
  | file (content : List UInt8)
  /-- A directory and its entries in listing order. -/
  | directory (entries : List (Name × Entry))
  /-- A symbolic link. -/
  | link (target : Path)
  /-- An entry that may not be inspected, a directory that may not be listed, or a file that may
  not be read. -/
  | denied (operation : Operation)

namespace Entry

/-- The entry is a directory. -/
def isDirectory : Entry → Bool
  | directory _ | denied .list => true
  | _ => false

/-- The entry of a given name in a directory. -/
def child (e : Entry) (n : Name) : Except OsError Entry :=
  match e with
  | directory entries =>
    match entries.lookup n with
    | some e => .ok e
    | none => .error .notFound
  | denied _ => .error .permissionDenied
  | _ => .error .notDirectory

/-- The entry at a place below another, by names alone. -/
def descend (e : Entry) : List Name → Except OsError Entry
  | [] => .ok e
  | n :: ns => do (← e.child n).descend ns

/-- The bytes of a file. -/
def read : Entry → Except OsError (List UInt8)
  | file content => .ok content
  | directory _ | denied .list => .error .isDirectory
  | link _ => .error .tooManyLinks
  | denied _ => .error .permissionDenied

/-- The entry with another one put at a place below it. Directories are made on the way, and a new
name comes last in its directory. -/
def insert (new : Entry) : List Name → Entry → Entry
  | [], _ => new
  | n :: ns, e =>
    let entries :=
      match e with
      | directory entries => entries
      | _ => []
    match entries.lookup n with
    | none => directory (entries ++ [(n, insert new ns (directory []))])
    | some child =>
      directory (entries.map fun (m, c) => (m, if m == n then insert new ns child else c))

end Entry

/-- A file tree and the place in it from which relative paths go out. -/
structure Disk where
  root : Entry
  workingDirectory : List Name

namespace Disk

/-- The most links that are followed on the way to one entry. -/
def maxLinks : Nat := 40

/-- Looks up the pieces of a path from the directory at `place`, and answers with the place that
they name. With `follow`, a link at the end is followed. -/
def locateFrom (disk : Disk) (follow : Bool) (links : Nat) (place : List Name) :
    List Name → Except OsError (List Name)
  | [] => .ok place
  | n :: rest =>
    match disk.root.descend place with
    | .error e => .error e
    | .ok e =>
      if Path.isVoid n || n == upName then
        if e.isDirectory then
          locateFrom disk follow links (if n == upName then place.dropLast else place) rest
        else .error .notDirectory
      else
        match e.child n with
        | .error e => .error e
        | .ok (.link target) =>
          if rest.isEmpty && !follow then .ok (place ++ [n])
          else
            match links with
            | 0 => .error .tooManyLinks
            | links + 1 =>
              locateFrom disk follow links (if target.isAbsolute then [] else place)
                (Path.pieces target.bytes ++ rest)
        | .ok _ => locateFrom disk follow links (place ++ [n]) rest
termination_by ns => (links, ns.length)

/-- The place that a path names. -/
def locate (disk : Disk) (follow : Bool) (p : Path) : Except OsError (List Name) :=
  if p.bytes.isEmpty then .error .notFound
  else
    disk.locateFrom follow maxLinks (if p.isAbsolute then [] else disk.workingDirectory)
      (Path.pieces p.bytes)

/-- The place that a path names and the entry there. A link at the end of the path is an entry of
its own. -/
def inspect (disk : Disk) (p : Path) : Except OsError (List Name × Entry) := do
  let place ← disk.locate false p
  match ← disk.root.descend place with
  | .denied .inspect => throw .permissionDenied
  | e => return (place, e)

/-- The entry that a path leads to, behind all links. -/
def follow (disk : Disk) (p : Path) : Except OsError Entry := do
  let place ← disk.locate true p
  match ← disk.root.descend place with
  | .denied .inspect => throw .permissionDenied
  | e => return e

/-- The text that a sequence of bytes is. -/
def textOf (content : List UInt8) : Except OsError String :=
  match Utf8.decode? content with
  | some s => .ok (String.ofList s)
  | none => .error .notText

/-- The text of the file that a path names. -/
def readText (disk : Disk) (p : Path) : Except OsError String := do
  let place ← disk.locate true p
  textOf (← (← disk.root.descend place).read)

end Disk

end FeatureDocs
