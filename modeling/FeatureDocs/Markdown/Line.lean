import FeatureDocs.Markdown.LinkParts
import FeatureDocs.Markdown.RawHtml

/-!
# Lines

The structure of a document is decided line by line. A cursor stands in a line, behind what has
been taken off its front; tabs reach to the next column that is a multiple of four, and a tab can
be taken in part. The tests of this module say what the rest of a line can begin.

## Main definitions

* `Line`, `Line.ofText`: the lines of a text
* `Cursor`: a place in a line, with `takeSpace`
* `listMarker?`, `isThematicBreak`, `atxHeading?`, `setextLevel?`, `fence?`, `htmlStart?`: what a
  line can begin
-/

namespace FeatureDocs.Markdown

/-- A line: its text, and the characters that end it. -/
structure Line where
  text : List Char
  ending : List Char
  deriving DecidableEq, Repr

/-- The lines of a text; `current` holds the characters of the present line, latest first. -/
def Line.ofTextFrom (current : List Char) : List Char → List Line
  | [] => if current.isEmpty then [] else [⟨current.reverse, []⟩]
  | '\r' :: '\n' :: s => ⟨current.reverse, ['\r', '\n']⟩ :: ofTextFrom [] s
  | '\r' :: s => ⟨current.reverse, ['\r']⟩ :: ofTextFrom [] s
  | '\n' :: s => ⟨current.reverse, ['\n']⟩ :: ofTextFrom [] s
  | c :: s => ofTextFrom (c :: current) s

/-- The lines of a text. -/
def Line.ofText (s : List Char) : List Line := ofTextFrom [] s

/-- The end of a line inside a block whose text is kept: a carriage return before a line feed is
dropped. -/
def Line.keptEnding (l : Line) : List Char :=
  if l.ending == ['\r', '\n'] then ['\n'] else l.ending

/-- A place in a line: what follows, the column, and the columns that are left of a tab. -/
structure Cursor where
  rest : List Char
  column : Nat
  spaces : Nat
  deriving Repr

namespace Cursor

/-- The beginning of a line. -/
def start (text : List Char) : Cursor := ⟨text, 0, 0⟩

/-- One column of blanks taken. -/
def takeColumn? (c : Cursor) : Option Cursor :=
  match c.spaces, c.rest with
  | n + 1, _ => some { c with spaces := n }
  | 0, ' ' :: s => some ⟨s, c.column + 1, 0⟩
  | 0, '\t' :: s =>
    let width := 4 - c.column % 4
    some ⟨s, c.column + width, width - 1⟩
  | 0, _ => none

/-- At most so many columns of blanks taken; their number comes along. -/
def takeSpace (c : Cursor) : Nat → Nat × Cursor
  | 0 => (0, c)
  | n + 1 =>
    match c.takeColumn? with
    | none => (0, c)
    | some c =>
      let (k, c) := c.takeSpace n
      (k + 1, c)

/-- One character taken. -/
def advance (c : Cursor) (n : Nat) : Cursor :=
  { c with rest := c.rest.drop n, column := c.column + n }

/-- Nothing but blanks follows. -/
def isBlank (c : Cursor) : Bool := c.rest.all isSpace

/-- What follows, with what is left of a tab as spaces. -/
def text (c : Cursor) : List Char := List.replicate c.spaces ' ' ++ c.rest

end Cursor

/-- The line from here on is a thematic break: three or more of one mark, and blanks. -/
def isThematicBreak (s : List Char) : Bool :=
  match s with
  | [] => false
  | c :: _ =>
    (c == '*' || c == '-' || c == '_') && 3 ≤ s.count c &&
      s.all fun d => d == c || d == ' ' || d == '\t'

/-- The marker of a list item. -/
structure ListMarker where
  /-- A bullet, or the character behind a number. -/
  mark : Char
  /-- The number, or zero for a bullet. -/
  number : Nat
  /-- The columns that the marker takes. -/
  width : Nat
  deriving DecidableEq, Repr

/-- The marker at the front of a text. A blank or the end of the line has to follow it. -/
def listMarker? (s : List Char) : Option ListMarker :=
  let closed : List Char → Bool := fun rest => rest.head?.all fun c => c == ' ' || c == '\t'
  match s with
  | [] => none
  | c :: t =>
    if c == '-' || c == '+' || c == '*' then
      if closed t && !isThematicBreak s then some ⟨c, 0, 1⟩ else none
    else
      let digits := s.takeWhile Text.isAsciiDigit
      match s.dropWhile Text.isAsciiDigit with
      | d :: rest =>
        if (d == '.' || d == ')') && !digits.isEmpty && digits.length ≤ 9 && closed rest then
          some ⟨d, digits.foldl (fun n e => n * 10 + (e.toNat - 0x30)) 0, digits.length + 1⟩
        else none
      | [] => none

/-- The level of an ATX heading. -/
def atxHeading? (s : List Char) : Option Nat :=
  let level := (s.takeWhile (· == '#')).length
  if 1 ≤ level ∧ level ≤ 6 ∧ (s.drop level).head?.all isAsciiBlank then some level else none

/-- The content of an ATX heading behind its opening sequence: blanks at the ends and a closing
sequence do not count. -/
def atxContent (s : List Char) : List Char :=
  let s := s.dropWhile isSpace
  let trimmed := (s.reverse.dropWhile isSpace).reverse
  let body := (trimmed.reverse.dropWhile (· == '#')).reverse
  if body.isEmpty then []
  else if body.getLast? == some ' ' then (body.reverse.dropWhile isSpace).reverse
  else trimmed

/-- The level of the heading that a line underlines. -/
def setextLevel? (s : List Char) : Option Nat :=
  match s with
  | [] => none
  | c :: _ =>
    if (c == '=' || c == '-') && (s.dropWhile (· == c)).all isSpace then
      some (if c == '=' then 1 else 2)
    else none

/-- The mark and the length of a fence that opens code. -/
def fence? (s : List Char) : Option (Char × Nat) :=
  match s with
  | [] => none
  | c :: _ =>
    let length := (s.takeWhile (· == c)).length
    if (c == '\x60' || c == '~') && 3 ≤ length &&
        !(c == '\x60' && (s.drop length).contains '\x60') then some (c, length)
    else none

/-- The line from here on is a fence that closes code. -/
def closesFence (mark : Char) (length : Nat) (s : List Char) : Bool :=
  length ≤ (s.takeWhile (· == mark)).length && (s.dropWhile (· == mark)).all isSpace

/-- The blocks of raw HTML: up to a line that holds a text, or up to a blank line. -/
inductive HtmlEnd where
  | text (t : List Char)
  | blankLine
  deriving DecidableEq, Repr

/-- The elements whose text is not read as Markdown. -/
def rawElements : List String := ["pre", "style", "script", "textarea"]

/-- The elements that make up blocks. -/
def blockElements : List String :=
  ["address", "article", "aside", "base", "basefont", "blockquote", "body", "caption", "center",
    "col", "colgroup", "dd", "details", "dialog", "dir", "div", "dl", "dt", "fieldset",
    "figcaption", "figure", "footer", "form", "frame", "frameset", "h1", "h2", "h3", "h4", "h5",
    "h6", "head", "header", "hr", "html", "iframe", "legend", "li", "link", "main", "menu",
    "menuitem", "nav", "noframes", "ol", "optgroup", "option", "p", "param", "search", "section",
    "summary", "table", "tbody", "td", "tfoot", "th", "thead", "title", "tr", "track", "ul"]

/-- The word starts the text, in any case of its letters. -/
def startsWithWord (word : List Char) (s : List Char) : Bool :=
  (s.take word.length).map Text.asciiLower == word

/-- The raw element at the front of a text, with its end tag. -/
def rawElementEnd? (s : List Char) : Option (List Char) :=
  rawElements.findSome? fun name =>
    let word := name.toList
    if startsWithWord word s && (s.drop word.length).head?.all (fun c => isAsciiBlank c || c == '>')
    then some ("</".toList ++ word ++ ['>'])
    else none

/-- The end of the block of HTML that starts behind `<`, if it may end at some text. -/
def htmlTextEnd? (s : List Char) : Option (List Char) :=
  match rawElementEnd? s with
  | some t => some t
  | none =>
    if "!--".toList.isPrefixOf s then some "-->".toList
    else if "?".toList.isPrefixOf s then some "?>".toList
    else if "![CDATA[".toList.isPrefixOf s then some "]]>".toList
    else
      match s with
      | '!' :: c :: _ => if Text.isAsciiLetter c then some ['>'] else none
      | _ => none

/-- The tag of a block element starts behind `<`. -/
def startsBlockElement (s : List Char) : Bool :=
  let s := if s.head? == some '/' then s.drop 1 else s
  let name := (s.takeWhile isAsciiAlphanumeric).map Text.asciiLower
  let rest := s.dropWhile isAsciiAlphanumeric
  blockElements.contains (String.ofList name) &&
    (rest.head?.all (fun c => isAsciiBlank c || c == '>') || ['/', '>'].isPrefixOf rest)

/-- The block of HTML that starts behind `<`, among those that can interrupt a paragraph. -/
def htmlInterrupt? (s : List Char) : Option HtmlEnd :=
  match htmlTextEnd? s with
  | some t => some (.text t)
  | none => if startsBlockElement s then some .blankLine else none

/-- The block of HTML that starts behind `<`. -/
def htmlStart? (s : List Char) : Option HtmlEnd :=
  match htmlInterrupt? s with
  | some e => some e
  | none => if (tag? true s).any fun rest => rest.all isSpace then some .blankLine else none

/-- The line from here on ends the paragraph before it. Inside the innermost container, which
`current` tells, a list item does so only if it is not empty and is not numbered other than
one. -/
def interruptsParagraph (current : Bool) (s : List Char) : Bool :=
  s.isEmpty || isThematicBreak s || (atxHeading? s).isSome || (fence? s).isSome ||
    s.head? == some '>' ||
    (match listMarker? s with
      | none => false
      | some m =>
        !current ||
          ((m.mark != '.' && m.mark != ')') || m.number == 1) &&
            !(s.drop m.width).all isSpace) ||
    (match s with
      | '<' :: t => (htmlInterrupt? t).isSome
      | _ => false)

end FeatureDocs.Markdown
