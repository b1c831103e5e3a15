import FeatureDocs.Code.Literal
import FeatureDocs.Code.Token
import FeatureDocs.Text.Blank

/-!
# The lexer of Rust sources

A source is cut into tokens; blanks and comments separate them. A documentation comment is the
same as an attribute `doc` with its text.

## Main definitions

* `scan?`: what stands at the front of a source
* `Tree.ofSource?`: the token trees of a source
-/

namespace FeatureDocs.Code

/-- Blank characters, among them the marks of writing direction. -/
def isBlank (c : Char) : Bool := Text.isBlank c || c == '\u200e' || c == '\u200f'

/-- Behind a comment that can hold other comments, `depth` of which are open; its text comes
along. -/
def blockComment (depth : Nat) : List Char → Option (List Char × List Char)
  | '/' :: '*' :: s => consValue '/' (consValue '*' (blockComment (depth + 1) s))
  | '*' :: '/' :: s =>
    if depth ≤ 1 then some ([], s) else consValue '*' (consValue '/' (blockComment (depth - 1) s))
  | c :: s => consValue c (blockComment depth s)
  | [] => none

/-- Every carriage return has a line feed behind it. -/
def returnsPaired : List Char → Bool
  | '\r' :: '\n' :: s => returnsPaired s
  | '\r' :: _ => false
  | _ :: s => returnsPaired s
  | [] => true

/-- The text up to the end of the line, and what starts with that. -/
def lineComment (s : List Char) : List Char × List Char :=
  let line := s.takeWhile fun c => c != '\n'
  let rest := s.dropWhile fun c => c != '\n'
  match line.getLast?, rest with
  | some '\r', '\n' :: _ => (line.dropLast, '\r' :: rest)
  | _, _ => (line, rest)

/-- The tokens of a documentation comment; `inner` tells that it documents what is around it. -/
def docTokens (inner : Bool) (text : List Char) : Option (List Token) :=
  if returnsPaired text then
    some ([.mark '#' false] ++ (if inner then [.mark '!' false] else []) ++
      [.opening .bracket, .identifier "doc" [], .mark '=' false, .text (String.ofList text),
        .closing .bracket])
  else none

/-- The characters that are tokens by themselves. -/
def isMark (c : Char) : Bool := "~!@#$%^&*-=+|;:,<.>/?'".toList.contains c

/-- The text starts with a punctuation character, and not with a comment. -/
def startsMark : List Char → Bool
  | '/' :: '/' :: _ | '/' :: '*' :: _ => false
  | c :: _ => isMark c
  | [] => false

/-- The delimiter token of a character. -/
def delimiter? : Char → Option Token
  | '(' => some (.opening .parenthesis)
  | ')' => some (.closing .parenthesis)
  | '[' => some (.opening .bracket)
  | ']' => some (.closing .bracket)
  | '\x7b' => some (.opening .brace)
  | '\x7d' => some (.closing .brace)
  | _ => none

/-- Reads an identifier or keyword. A raw one is marked by `r#`, and names that cannot be raw are
refused. -/
def identifier? (s : List Char) : Option (String × List Char) :=
  let raw := "r#".toList.isPrefixOf s
  match if raw then s.drop 2 else s with
  | [] => none
  | c :: t =>
    if Text.isIdentifierStart c then
      let name := String.ofList (c :: t.takeWhile Text.isIdentifierTail)
      let rest := t.dropWhile Text.isIdentifierTail
      if !raw then some (name, rest)
      else if name ∈ ["_", "super", "self", "Self", "crate"] then none
      else some ("r#" ++ name, rest)
    else none

/-- Reads text between a quote with hashes in front and a quote with hashes behind. -/
def rawLiteral? (s : List Char) : Option (List Char × List Char) :=
  match s.dropWhile (· == '#') with
  | '"' :: t => rawQuoted (s.takeWhile (· == '#')).length t
  | _ => none

/-- Reads a quote: a character literal, or else the mark of a lifetime, behind which its name
stands. -/
def quote? (s : List Char) : Option (List Token × List Char) :=
  match character .text s with
  | some rest => some ([.literal], rest)
  | none =>
    match identifier? (s.drop 1) with
    | some (_, '\'' :: _) => none
    | some (_, '#' :: _) =>
      if "r#".toList.isPrefixOf (s.drop 1) then some ([.mark '\'' true], s.drop 1) else none
    | some _ => some ([.mark '\'' true], s.drop 1)
    | none => none

/-- Reads a literal of which only the place is kept. -/
def unvalued (r : Option (List Char × List Char)) : Option (List Token × List Char) :=
  r.map fun (_, rest) => ([.literal], dropIdentifier rest)

/-- Reads a string literal. -/
def valued (r : Option (List Char × List Char)) : Option (List Token × List Char) :=
  r.map fun (value, rest) => ([.text (String.ofList value)], dropIdentifier rest)

/-- Reads what stands at the front of a source: blanks and comments are no tokens, a documentation
comment is several, and anything else is one. The answer tells what follows. -/
def scan? (s : List Char) : Option (List Token × List Char) :=
  match s with
  | [] => none
  | '/' :: '/' :: t =>
    let (text, rest) := lineComment t
    match text with
    | '/' :: '/' :: _ => some ([], rest)
    | '/' :: doc => (docTokens false doc).map (·, rest)
    | '!' :: doc => (docTokens true doc).map (·, rest)
    | _ => some ([], rest)
  | '/' :: '*' :: '*' :: '/' :: t => some ([], t)
  | '/' :: '*' :: t =>
    match blockComment 1 t with
    | none => none
    | some (text, rest) =>
      match t with
      | '*' :: '*' :: _ => some ([], rest)
      | '*' :: _ => (docTokens false (text.drop 1)).map (·, rest)
      | '!' :: _ => (docTokens true (text.drop 1)).map (·, rest)
      | _ => some ([], rest)
  | '"' :: t => valued (quoted .text .plain t)
  | 'b' :: '"' :: t => unvalued (quoted .bytes .plain t)
  | 'c' :: '"' :: t => unvalued (quoted .zeroEnded .plain t)
  | 'r' :: '"' :: t => valued (rawQuoted 0 t)
  | 'r' :: '#' :: '"' :: t => valued (rawLiteral? ('#' :: '"' :: t))
  | 'r' :: '#' :: '#' :: t => valued (rawLiteral? ('#' :: '#' :: t))
  | 'b' :: 'r' :: '"' :: t => unvalued (rawQuoted 0 t)
  | 'b' :: 'r' :: '#' :: t => unvalued (rawLiteral? ('#' :: t))
  | 'c' :: 'r' :: '"' :: t => unvalued (rawQuoted 0 t)
  | 'c' :: 'r' :: '#' :: t => unvalued (rawLiteral? ('#' :: t))
  | 'b' :: '\'' :: t => (character .bytes ('\'' :: t)).map fun rest => ([.literal], rest)
  | '\'' :: t => quote? ('\'' :: t)
  | c :: t =>
    if isBlank c then some ([], t)
    else if Text.isAsciiDigit c then some ([.literal], number (c :: t))
    else
      match delimiter? c with
      | some d => some ([d], t)
      | none =>
        if isMark c then some ([.mark c (startsMark t)], t)
        else (identifier? (c :: t)).map fun (name, rest) => ([.identifier name (c :: t)], rest)

/-- The tokens of a source of at most `bound` characters. -/
def tokens? : Nat → List Char → Option (List Token)
  | _, [] => some []
  | 0, _ :: _ => none
  | bound + 1, s =>
    match scan? s with
    | none => none
    | some (ts, rest) => (tokens? bound rest).map (ts ++ ·)

/-- A source without a byte order mark in front. -/
def dropMark : List Char → List Char
  | '\ufeff' :: s => s
  | s => s

/-- Behind blanks and comments; `bound` bounds their number. -/
def skipTrivia : Nat → List Char → List Char
  | 0, s => s
  | bound + 1, s =>
    match scan? s with
    | some ([], rest) => skipTrivia bound rest
    | _ => s

/-- A source without the line in front that tells the system how to run it. -/
def dropInterpreter (s : List Char) : List Char :=
  match s with
  | '#' :: '!' :: t =>
    if (skipTrivia t.length t).head? == some '[' then s else t.dropWhile fun c => c != '\n'
  | s => s

/-- The source of a file as it is read. -/
def sourceText (s : List Char) : List Char := dropMark (dropInterpreter (dropMark s))

/-- The token trees of a source. -/
def Tree.ofSource? (s : List Char) : Option (List Tree) :=
  (tokens? s.length s).bind Tree.ofTokens

end FeatureDocs.Code
