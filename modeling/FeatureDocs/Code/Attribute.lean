import FeatureDocs.Code.Token

/-!
# Attributes

An attribute is a path with arguments: none at all, a group of trees, or a value behind an equals
sign. Outer attributes stand in front of what they describe, inner ones at the beginning of its
body.
-/

namespace FeatureDocs.Code

/-- The arguments of an attribute. -/
inductive Arguments where
  | absent
  | list (trees : List Tree)
  | value (trees : List Tree)

/-- An attribute. -/
structure Attribute where
  /-- The segments of the path. -/
  path : List String
  arguments : Arguments

/-- The reserved words, which are no names. -/
def reservedWords : List String :=
  ["_", "abstract", "as", "async", "await", "become", "box", "break", "const", "continue", "crate",
    "do", "dyn", "else", "enum", "extern", "false", "final", "fn", "for", "if", "impl", "in", "let",
    "loop", "macro", "match", "mod", "move", "mut", "override", "priv", "pub", "ref", "return",
    "Self", "self", "static", "struct", "super", "trait", "true", "try", "type", "typeof", "unsafe",
    "unsized", "use", "virtual", "where", "while", "yield"]

/-- The word is a name. -/
def isName (word : String) : Bool := !reservedWords.contains word

/-- The word may be a segment of a path. -/
def isSegment (word : String) : Bool :=
  isName word || ["super", "self", "Self", "crate"].contains word

/-- Reads the segments of a path, with a separator between any two. -/
def pathSegments : List Tree → Option (List String × List Tree)
  | .identifier name _ :: .mark ':' true :: .mark ':' _ :: ts =>
    if isSegment name then (pathSegments ts).map fun (rest, ts) => (name :: rest, ts) else none
  | .identifier name _ :: ts => if isSegment name then some ([name], ts) else none
  | _ => none

/-- Reads a path, which may start with a separator. -/
def path? : List Tree → Option (List String × List Tree)
  | .mark ':' true :: .mark ':' _ :: ts => pathSegments ts
  | ts => pathSegments ts

/-- The tree is a literal. -/
def Tree.isLiteral : Tree → Bool
  | text _ | literal => true
  | _ => false

/-- The tree separates expressions. -/
def Tree.isSeparator : Tree → Bool
  | mark c _ => c == ',' || c == ';'
  | _ => false

/-- The tree may stand right behind a literal. -/
def Tree.mayFollowLiteral : Tree → Bool
  | text _ | literal => false
  | identifier name _ => name == "as"
  | _ => true

/-- The trees can be one expression: there is something, nothing separates it, and behind a literal
stands no other operand. -/
def canBeExpression (ts : List Tree) : Bool :=
  !ts.isEmpty && ts.all (fun t => !t.isSeparator) &&
    (ts.zip (ts.drop 1)).all fun (t, u) => !t.isLiteral || u.mayFollowLiteral

/-- Reads the content of an attribute's brackets. -/
def Attribute.ofTrees? (ts : List Tree) : Option Attribute :=
  let path : Option (List String × List Tree) :=
    match ts with
    | .identifier "unsafe" _ :: rest => some (["unsafe"], rest)
    | ts => path? ts
  match path with
  | none => none
  | some (path, []) => some ⟨path, .absent⟩
  | some (path, [.group _ content]) => some ⟨path, .list content⟩
  | some (path, .mark '=' _ :: value) =>
    if canBeExpression value then some ⟨path, .value value⟩ else none
  | some _ => none

/-- Reads the attributes in front of an item. -/
def outerAttributes : List Tree → Option (List Attribute × List Tree)
  | .mark '#' _ :: .group .bracket content :: ts =>
    match Attribute.ofTrees? content, outerAttributes ts with
    | some a, some (as, rest) => some (a :: as, rest)
    | _, _ => none
  | .mark '#' _ :: _ => none
  | ts => some ([], ts)

/-- Reads the attributes at the beginning of a body. -/
def innerAttributes : List Tree → Option (List Attribute × List Tree)
  | .mark '#' _ :: .mark '!' _ :: .group .bracket content :: ts =>
    match Attribute.ofTrees? content, innerAttributes ts with
    | some a, some (as, rest) => some (a :: as, rest)
    | _, _ => none
  | .mark '#' _ :: .mark '!' _ :: _ => none
  | ts => some ([], ts)

end FeatureDocs.Code
