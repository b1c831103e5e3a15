import FeatureDocs.Markdown.Reference

/-!
# Labels, destinations and titles

The parts of links and of link definitions. A label stands between square brackets, a destination
is a word with balanced parentheses or stands between angle brackets, and a title stands between
quotes or parentheses.

## Main definitions

* `linkLabel?`, `normaliseLabel`: labels, and the form in which they are compared
* `linkDestination?`, `linkTitle?`, `inlineTarget?`: the target of a link
* `definition?`: the definition of a label
* `LinkTarget`, `Definitions`: targets, and targets by label
-/

namespace FeatureDocs.Markdown

/-- Where a link leads, and its title. -/
structure LinkTarget where
  destination : List Char
  title : List Char
  deriving DecidableEq, Repr

/-- Link targets by normalised label; the first target of a label counts. -/
abbrev Definitions := List (List Char × LinkTarget)

/-- The most characters of a label. -/
def maxLabel : Nat := 999

/-- Reads a label behind its opening bracket: its text, and what follows the closing bracket.
Brackets inside need a backslash. -/
def labelRest : List Char → Option (List Char × List Char)
  | [] => none
  | ']' :: s => some ([], s)
  | '[' :: _ => none
  | '\\' :: c :: s => (labelRest s).map fun (l, rest) => ('\\' :: c :: l, rest)
  | c :: s => (labelRest s).map fun (l, rest) => (c :: l, rest)

/-- Two ends of lines follow one another in the text, with nothing but blanks between. -/
def hasBlankLine : List Char → Bool
  | [] => false
  | '\n' :: s => (s.dropWhile isSpace).head? == some '\n' || hasBlankLine s
  | _ :: s => hasBlankLine s

/-- Reads a label, from its opening bracket on. A label is not blank, is not too long and holds no
blank line. -/
def linkLabel? : List Char → Option (List Char × List Char)
  | '[' :: s =>
    match labelRest s with
    | some (label, rest) =>
      if label.all isAsciiBlank || maxLabel < label.length || hasBlankLine label then none
      else some (label, rest)
    | none => none
  | _ => none

/-- A label with every run of blanks as one space. -/
def collapseBlanks (afterBlank : Bool) : List Char → List Char
  | [] => []
  | c :: s =>
    if isAsciiBlank c then (if afterBlank then [] else [' ']) ++ collapseBlanks true s
    else c :: collapseBlanks false s

/-- The form of a character in which case does not matter. -/
def foldCase (c : Char) : List Char :=
  if c.toNat == 0xDF || c.toNat == 0x1E9E then ['s', 's']
  else if c.toNat == 0x3C2 then [Char.ofNat 0x3C3]
  else Text.lowerChar c

/-- The form in which labels are compared: neither case nor the kind and number of blanks
matters. -/
def normaliseLabel (label : List Char) : List Char :=
  (Text.trim (collapseBlanks false label)).flatMap foldCase

/-- The target of a label. -/
def Definitions.target? (definitions : Definitions) (label : List Char) : Option LinkTarget :=
  definitions.lookup (normaliseLabel label)

/-- The most parentheses inside one another in the destination of a link. -/
def maxParentheses : Nat := 32

/-- Reads a destination behind an opening angle bracket. -/
def pointyDestination : List Char → Option (List Char × List Char)
  | [] => none
  | '>' :: s => some ([], s)
  | '<' :: _ | '\n' :: _ | '\r' :: _ => none
  | '\\' :: c :: s =>
    if isAsciiPunctuation c then
      (pointyDestination s).map fun (d, rest) => ('\\' :: c :: d, rest)
    else (pointyDestination (c :: s)).map fun (d, rest) => ('\\' :: d, rest)
  | c :: s => (pointyDestination s).map fun (d, rest) => (c :: d, rest)

/-- Reads a destination that is a word; `depth` parentheses are open. -/
def wordDestination (limit depth : Nat) : List Char → Option (List Char × List Char)
  | [] => if depth = 0 then some ([], []) else none
  | '\\' :: c :: s =>
    if isAsciiPunctuation c then
      (wordDestination limit depth s).map fun (d, rest) => ('\\' :: c :: d, rest)
    else (wordDestination limit depth (c :: s)).map fun (d, rest) => ('\\' :: d, rest)
  | c :: s =>
    if c.toNat ≤ 0x20 then if depth = 0 then some ([], c :: s) else none
    else if c == '(' then
      if limit < depth then none
      else (wordDestination limit (depth + 1) s).map fun (d, rest) => ('(' :: d, rest)
    else if c == ')' then
      if depth = 0 then some ([], c :: s)
      else (wordDestination limit (depth - 1) s).map fun (d, rest) => (')' :: d, rest)
    else (wordDestination limit depth s).map fun (d, rest) => (c :: d, rest)

/-- Reads a destination: its text as it stands, and what follows it. -/
def linkDestination? (limit : Nat) : List Char → Option (List Char × List Char)
  | '<' :: s => pointyDestination s
  | s => wordDestination limit 0 s

/-- The character that closes a title. -/
def titleClose? : Char → Option Char
  | '"' => some '"'
  | '\'' => some '\''
  | '(' => some ')'
  | _ => none

/-- Behind the blanks at the beginning of a line. -/
def skipLineBlanks (s : List Char) : List Char := s.dropWhile fun c => c == ' ' || c == '\t'

/-- Behind the end of a line, if the text starts with one. -/
def lineEnd? : List Char → Option (List Char)
  | '\r' :: '\n' :: s => some s
  | '\r' :: s => some s
  | '\n' :: s => some s
  | _ => none

/-- Reads a title of at most `bound` characters behind its opening character: its text with
references and escapes resolved, and what follows. -/
def titleRest (opening closing : Char) : Nat → List Char → Option (List Char × List Char)
  | bound + 1, c :: s =>
    if c == closing then some ([], s)
    else if c == opening then none
    else
      match lineEnd? (c :: s) with
      | some rest =>
        (titleRest opening closing bound (skipLineBlanks rest)).map fun (t, rest) =>
          ('\n' :: t, rest)
      | none =>
        match c, s with
        | '&', s =>
          match characterReference? s with
          | some (value, rest) =>
            (titleRest opening closing bound rest).map fun (t, rest) => (value ++ t, rest)
          | none => (titleRest opening closing bound s).map fun (t, rest) => ('&' :: t, rest)
        | '\\', d :: t =>
          if isAsciiPunctuation d then
            (titleRest opening closing bound t).map fun (t, rest) => (d :: t, rest)
          else (titleRest opening closing bound (d :: t)).map fun (t, rest) => ('\\' :: t, rest)
        | c, s => (titleRest opening closing bound s).map fun (t, rest) => (c :: t, rest)
  | _, _ => none

/-- Reads a title. -/
def linkTitle? : List Char → Option (List Char × List Char)
  | c :: s =>
    match titleClose? c with
    | some closing => titleRest c closing s.length s
    | none => none
  | [] => none

/-- Behind blanks and at most one end of a line. -/
def skipSeparator (s : List Char) : List Char :=
  let s := s.dropWhile isSpace
  ((lineEnd? s).getD s).dropWhile isSpace

/-- Reads the target of a link behind its text, in parentheses. -/
def inlineTarget? : List Char → Option (LinkTarget × List Char)
  | '(' :: s =>
    match linkDestination? maxParentheses (skipSeparator s) with
    | none => none
    | some (destination, s) =>
      let s := skipSeparator s
      let (title, s) :=
        match linkTitle? s with
        | some (title, s) => (title, skipSeparator s)
        | none => ([], s)
      match s with
      | ')' :: s => some (⟨unescape destination, title⟩, s)
      | _ => none
  | _ => none

/-- Behind the end of a line that is blank from here on. -/
def blankLineEnd? (s : List Char) : Option (List Char) :=
  match s.dropWhile isSpace with
  | [] => some []
  | c :: s => lineEnd? (c :: s)

/-- Reads a title that ends its line; tells what follows the line. -/
def closingTitle? (s : List Char) : Option (List Char × List Char) :=
  match linkTitle? s with
  | some (title, s) => (blankLineEnd? s).map fun rest => (title, rest)
  | none => none

/-- Reads the target of a definition behind its label, and tells what follows the last line of it.
A title stands on the line of the destination or on the next one; on the next one it counts only
if nothing else stands there. -/
def definitionTarget? (s : List Char) : Option (LinkTarget × List Char) :=
  let start := skipSeparator s
  match linkDestination? 1 start with
  | none => none
  | some (destination, s) =>
    if s.length = start.length then none
    else
      match blankLineEnd? s with
      | some next =>
        match closingTitle? (next.dropWhile isSpace) with
        | some (title, rest) => some (⟨unescape destination, title⟩, rest)
        | none => some (⟨unescape destination, []⟩, next)
      | none =>
        if s.head?.any isSpace then
          (closingTitle? (s.dropWhile isSpace)).map fun (title, rest) =>
            (⟨unescape destination, title⟩, rest)
        else none

/-- Reads the definition of a label, which has to end within the first `limit` characters: the
label, its target, and what follows the last line of the definition. -/
def definition? (limit : Nat) (s : List Char) : Option (List Char × LinkTarget × List Char) :=
  match linkLabel? (s.take limit) with
  | none => none
  | some (label, rest) =>
    match s.drop (min limit s.length - rest.length) with
    | ':' :: s => (definitionTarget? s).map fun (target, rest) => (label, target, rest)
    | _ => none

end FeatureDocs.Markdown
