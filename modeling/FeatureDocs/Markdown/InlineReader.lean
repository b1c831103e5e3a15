import FeatureDocs.Markdown.Inline
import FeatureDocs.Markdown.RawHtml

/-!
# Reading inline content

The text of a block is read once from left to right. Code, raw HTML and addresses are taken whole;
a closing bracket looks back for the nearest opening one, and if a target follows, or the text
between them is a label, they become a link or an image. Once a link is found, no bracket before it
can open another link. What is left over is text.

## Main definitions

* `InlineState`: how far the reading has come
* `readInlines`: the inline content of a text
-/

namespace FeatureDocs.Markdown

/-- An opening bracket that has not been matched. -/
structure Bracket where
  /-- It opens an image. -/
  image : Bool
  /-- It can still become a link. -/
  active : Bool
  /-- The spans before the bracket, latest first. -/
  before : List Span
  /-- The text behind the bracket. -/
  behind : List Char

/-- How far the reading has come: open brackets, the spans since the last one, latest first, and
the last character read. -/
structure InlineState where
  brackets : List Bracket
  spans : List Span
  last : Option Char

namespace InlineState

/-- The state with one more span, the last character of which is given. -/
def add (state : InlineState) (span : Span) (last : Char) : InlineState :=
  { state with spans := span :: state.spans, last := some last }

/-- The state with more text. -/
def addText (state : InlineState) (text : List Char) (last : Char) : InlineState :=
  state.add (.inline (.text text)) last

end InlineState

/-- The text that an unmatched bracket leaves. -/
def Bracket.text (b : Bracket) : Span :=
  .inline (.text (if b.image then ['!', '['] else ['[']))

/-- All spans, latest first, with unmatched brackets as text. -/
def flattenBrackets : List Bracket → List Span → List Span
  | [], spans => spans
  | b :: bs, spans => spans ++ b.text :: flattenBrackets bs b.before

/-- Reads code up to a run of `length` backticks: the code, and what follows the run. The run that
is being read has `run` backticks so far. -/
def codeRest (length run : Nat) : List Char → Option (List Char × List Char)
  | '\x60' :: s => codeRest length (run + 1) s
  | c :: s =>
    if run = length then some ([], c :: s)
    else (codeRest length 0 s).map fun (code, rest) =>
      (List.replicate run '\x60' ++ c :: code, rest)
  | [] => if run = length then some ([], []) else none

/-- The text of code: ends of lines are spaces, and one space at either end is dropped if there are
both and there is something else. -/
def codeText (code : List Char) : List Char :=
  let code := code.map fun c => if c == '\n' || c == '\r' then ' ' else c
  if code.head? == some ' ' && code.getLast? == some ' ' && !code.all (· == ' ') then
    (code.drop 1).dropLast
  else code

/-- The text between a bracket and the closing bracket that starts `s`. -/
def Bracket.label (b : Bracket) (s : List Char) : List Char :=
  b.behind.take (b.behind.length - s.length)

/-- The target of the bracket's own text as a label. -/
def Bracket.ownTarget? (definitions : Definitions) (b : Bracket) (s : List Char) :
    Option LinkTarget :=
  match linkLabel? ('[' :: b.label s ++ [']']) with
  | some (label, []) => definitions.target? label
  | _ => none

/-- The target of a link whose closing bracket starts the text, and what follows the link. -/
def linkTarget? (definitions : Definitions) (b : Bracket) (s : List Char) :
    Option (LinkTarget × List Char) :=
  let rest := s.drop 1
  match inlineTarget? rest with
  | some found => some found
  | none =>
    match rest with
    | '[' :: ']' :: after => (b.ownTarget? definitions s).map fun t => (t, after)
    | _ =>
      match linkLabel? rest with
      | some (label, after) => (definitions.target? label).map fun t => (t, after)
      | none => (b.ownTarget? definitions s).map fun t => (t, rest)

/-- Takes a closing bracket into account, which starts the text; tells what follows. -/
def closeBracket (definitions : Definitions) (state : InlineState) (s : List Char) :
    InlineState × List Char :=
  match state.brackets with
  | [] => (state.addText [']'] ']', s.drop 1)
  | b :: bs =>
    let asText : InlineState × List Char :=
      ({ brackets := bs
         spans := .inline (.text [']']) :: state.spans ++ b.text :: b.before
         last := some ']' }, s.drop 1)
    if !b.active then asText
    else
      match linkTarget? definitions b s with
      | none => asText
      | some (target, rest) =>
        let content := matchEmphasis state.spans.reverse
        if b.image then
          ({ brackets := bs
             spans := .inline (.image target content) :: b.before
             last := some ')' }, rest)
        else
          ({ brackets := bs.map fun o => if o.image then o else { o with active := false }
             spans := .inline (.link false target content) :: b.before
             last := some ')' }, rest)

/-- Takes what starts with `<` into account: an address, raw HTML, or text. -/
def readAngle (state : InlineState) (s : List Char) : InlineState × List Char :=
  match autolink? s with
  | some (mail, address, rest) =>
    (state.add (.inline (.link mail ⟨address, []⟩ [.text address])) '>', rest)
  | none =>
    match rawHtml? s with
    | some rest =>
      (state.add (.inline (.html ('<' :: s.take (s.length - rest.length)))) '>', rest)
    | none => (state.addText ['<'] '<', s)

/-- Takes blanks into account, which the text starts with: before the end of a line two of them
make a hard break, at the end of the text they do not count, and elsewhere they are text. -/
def readSpaces (state : InlineState) (s : List Char) : InlineState × List Char :=
  let spaces := s.takeWhile isSpace
  let rest := s.dropWhile isSpace
  match rest with
  | [] => (state, [])
  | c :: _ =>
    if c == '\n' || c == '\r' then
      if 2 ≤ spaces.length then
        (state.add (.inline .hardBreak) '\n', skipLineBlanks ((lineEnd? rest).getD rest))
      else (state, rest)
    else (state.addText spaces ' ', rest)

/-- Takes a backslash into account, behind which the text stands. -/
def readBackslash (state : InlineState) (s : List Char) : InlineState × List Char :=
  match s with
  | [] => (state.addText ['\\'] '\\', [])
  | c :: rest =>
    if isAsciiPunctuation c then (state.addText [c] c, rest)
    else
      match lineEnd? s with
      | some rest => (state.add (.inline .hardBreak) '\n', skipLineBlanks rest)
      | none => (state.addText ['\\'] '\\', s)

/-- The characters that need a look of their own. -/
def isSpecial (c : Char) : Bool :=
  isSpace c || "\\\x60<&*_![]\n\r".toList.contains c

/-- Takes what the text starts with into account, and tells what follows. -/
def readNext (definitions : Definitions) (state : InlineState) (c : Char) (s : List Char) :
    InlineState × List Char :=
  if isSpace c then readSpaces state (c :: s)
  else
    match c with
    | '\\' => readBackslash state s
    | '\x60' =>
      let length := 1 + (s.takeWhile (· == '\x60')).length
      let rest := s.dropWhile (· == '\x60')
      match codeRest length 0 rest with
      | some (code, rest) => (state.add (.inline (.code (codeText code))) '\x60', rest)
      | none => (state.addText (List.replicate length '\x60') '\x60', rest)
    | '<' => readAngle state s
    | '&' =>
      match characterReference? s with
      | some (value, rest) => (state.addText value ';', rest)
      | none => (state.addText ['&'] '&', s)
    | '!' =>
      match s with
      | '[' :: rest =>
        ({ brackets := ⟨true, true, state.spans, rest⟩ :: state.brackets
           spans := []
           last := some '[' }, rest)
      | _ => (state.addText ['!'] '!', s)
    | '[' =>
      ({ brackets := ⟨false, true, state.spans, s⟩ :: state.brackets
         spans := []
         last := some '[' }, s)
    | ']' => closeBracket definitions state (']' :: s)
    | c =>
      if c == '\n' || c == '\r' then
        (state.add (.inline .softBreak) '\n', skipLineBlanks ((lineEnd? (c :: s)).getD s))
      else if c == '*' || c == '_' then
        let length := 1 + (s.takeWhile (· == c)).length
        let rest := s.dropWhile (· == c)
        (state.add (.run (.between c length state.last rest.head?)) c, rest)
      else
        let text := s.takeWhile fun d => !isSpecial d
        (state.addText (c :: text) ((c :: text).getLast?.getD c), s.dropWhile fun d => !isSpecial d)

/-- Reads a text of at most `bound` characters to its end. -/
def readAll (definitions : Definitions) : Nat → InlineState → List Char → InlineState
  | bound + 1, state, c :: s =>
    let (state, rest) := readNext definitions state c s
    readAll definitions bound state rest
  | _, state, _ => state

/-- The inline content of a text. -/
def readInlines (definitions : Definitions) (s : List Char) : List Inline :=
  let state := readAll definitions s.length ⟨[], [], none⟩ s
  matchEmphasis (flattenBrackets state.brackets state.spans).reverse

end FeatureDocs.Markdown
