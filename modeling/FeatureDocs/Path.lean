import FeatureDocs.Text.Utf8

/-!
# Paths

A path is a sequence of bytes in which `/` separates names. Empty names and names `.` say nothing,
except for a `.` at the very beginning, which is kept as a component of its own; a `/` at the
beginning makes the path absolute.

All operations go through one view of a path: what leads it, and the pieces between its
separators, void pieces included. Of a path only the void pieces at its ends are ever dropped,
so what is left of it keeps its spelling.

## Main definitions

* `Path`, `Path.ofString`, `Path.text?`, `Path.display`: paths and their texts
* `Path.components`: the components, which decide when two paths name the same place
* `Path.join`, `Path.parent?`, `Path.fileName?`, `Path.stripPrefix?`, `Path.extension?`
-/

namespace FeatureDocs

/-- The name of an entry of a directory. -/
abbrev Name := List UInt8

/-- A sequence of bytes that names a place in a file tree. -/
structure Path where
  bytes : List UInt8
  deriving DecidableEq, Repr

/-- The separator of names. -/
def slash : UInt8 := 0x2F

/-- The byte of a full stop. -/
def dot : UInt8 := 0x2E

/-- The name of the place itself. -/
def hereName : Name := [dot]

/-- The name of the place above. -/
def upName : Name := [dot, dot]

/-- The parts of a component sequence. -/
inductive Component where
  /-- The root of an absolute path. -/
  | root
  /-- A `.` at the beginning of a relative path. -/
  | here
  /-- A `..`. -/
  | up
  /-- Any other name. -/
  | name (n : Name)
  deriving DecidableEq, Repr

namespace Path

/-- What leads a path. -/
inductive Lead where
  /-- Nothing: the path starts with a name. -/
  | nothing
  /-- A `/`: the path is absolute. -/
  | root
  /-- A `.` that is a component of its own. -/
  | here
  deriving DecidableEq, Repr

/-- The path of a text. -/
def ofString (s : String) : Path := ⟨Utf8.encode s.toList⟩

/-- The text of a path, if it has one. -/
def text? (p : Path) : Option String := (Utf8.decode? p.bytes).map String.ofList

/-- The path as it is shown, with the replacement character for malformed bytes. -/
def display (p : Path) : String := String.ofList (Utf8.decodeLossy p.bytes)

/-- The name as it is shown. -/
def displayName (n : Name) : String := String.ofList (Utf8.decodeLossy n)

/-- The pieces between separators; `current` holds the bytes of the present piece, latest first. -/
def piecesFrom (current : Name) : List UInt8 → List Name
  | [] => [current.reverse]
  | b :: s => if b = slash then current.reverse :: piecesFrom [] s else piecesFrom (b :: current) s

/-- The pieces of a sequence of bytes between its separators. -/
def pieces (bytes : List UInt8) : List Name := piecesFrom [] bytes

/-- A void piece says nothing about the place. -/
def isVoid (n : Name) : Bool := n.isEmpty || n == hereName

/-- A path as what leads it and the pieces behind that. -/
def view (p : Path) : Lead × List Name :=
  match pieces p.bytes with
  | [] :: n :: rest => (.root, n :: rest)
  | n :: rest => if n = hereName then (.here, rest) else (.nothing, n :: rest)
  | [] => (.nothing, [])

/-- The path that a lead and pieces spell. -/
def ofView (lead : Lead) (ns : List Name) : Path :=
  match lead with
  | .nothing => ⟨List.intercalate [slash] ns⟩
  | .root => ⟨slash :: List.intercalate [slash] ns⟩
  | .here => ⟨List.intercalate [slash] (hereName :: ns)⟩

/-- The component that a piece spells. -/
def component? (n : Name) : Option Component :=
  if isVoid n then none else if n = upName then some .up else some (.name n)

/-- The component of a lead. -/
def Lead.components : Lead → List Component
  | .nothing => []
  | .root => [.root]
  | .here => [.here]

/-- The components of a path. -/
def components (p : Path) : List Component :=
  let (lead, ns) := p.view
  lead.components ++ ns.filterMap component?

/-- The pieces without the void ones at the end. -/
def dropVoidEnd (ns : List Name) : List Name := (ns.reverse.dropWhile isVoid).reverse

/-- The path is absolute. -/
def isAbsolute (p : Path) : Bool := p.bytes.head? == some slash

/-- One path seen from another. An absolute path stands for itself; otherwise one `/` is put
between the two, unless there is one already or the first path is empty. -/
def join (p q : Path) : Path :=
  if q.isAbsolute then q
  else if p.bytes = [] ∨ p.bytes.getLast? = some slash then ⟨p.bytes ++ q.bytes⟩
  else ⟨p.bytes ++ slash :: q.bytes⟩

/-- The entry of a given name in the directory of a path. -/
def entry (p : Path) (n : Name) : Path := p.join ⟨n⟩

/-- The path without its last component. The empty path and the root have none above them. -/
def parent? (p : Path) : Option Path :=
  let (lead, ns) := p.view
  match dropVoidEnd ns with
  | [] => if lead = .here then some ⟨[]⟩ else none
  | n :: rest => some (ofView lead (dropVoidEnd (n :: rest).dropLast))

/-- The last component of a path, if it is a name. -/
def fileName? (p : Path) : Option Name :=
  match (dropVoidEnd p.view.2).getLast? with
  | some n => if n = upName then none else some n
  | none => none

/-- What is left of the pieces behind the given components. -/
def stripComponents : List Component → List Name → Option (List Name)
  | [], ns => some ns
  | _ :: _, [] => none
  | c :: cs, n :: ns =>
    match component? n with
    | none => stripComponents (c :: cs) ns
    | some d => if c = d then stripComponents cs ns else none

/-- What is left of a path behind another path, in its own spelling but for void pieces at the
ends. The empty path leaves all. -/
def stripPrefix? (p base : Path) : Option Path :=
  let (lead, ns) := p.view
  match base.components with
  | [] => some (ofView lead (dropVoidEnd ns))
  | c :: cs =>
    let rest? : Option (List Name) :=
      match lead with
      | .nothing => stripComponents (c :: cs) ns
      | .root => if c = Component.root then stripComponents cs ns else none
      | .here => if c = Component.here then stripComponents cs ns else none
    rest?.map fun rest => ofView .nothing (dropVoidEnd (rest.dropWhile isVoid))

/-- What stands behind the last full stop of the file name, unless that is its first byte. -/
def extension? (p : Path) : Option Name :=
  match p.fileName? with
  | none => none
  | some n =>
    let after := (n.reverse.takeWhile fun b => b != dot).reverse
    let before := (n.reverse.dropWhile fun b => b != dot).drop 1
    if before.isEmpty then none else some after

/-- The names among the components, as they are shown, with `/` between them. -/
def names (p : Path) : String :=
  String.intercalate "/" (p.components.filterMap fun
    | .name n => some (displayName n)
    | _ => none)

/-- The path with a text put behind its last byte. -/
def followedBy (p : Path) (suffix : String) : Path := ⟨p.bytes ++ Utf8.encode suffix.toList⟩

end Path

end FeatureDocs
