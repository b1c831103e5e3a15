import FeatureDocs.Markdown.Block
import FeatureDocs.Markdown.Line

/-!
# Reading blocks

A document is read line by line. A line first continues the containers that are open, from the
outside in; what is left of it continues the open paragraph, code or HTML, or begins something
new, which may open more containers. A paragraph also takes lines that do not continue its
containers, as long as they begin nothing else. The definition of a label may take several lines.

## Main definitions

* `Leaf`: a block without blocks inside, while it is read
* `Reading`: how far the reading of a document has come
* `Reading.addLine`: one more line
* `readBlocks`: the blocks and the definitions of a document
-/

namespace FeatureDocs.Markdown

/-- What follows the mark of a quote, with one blank behind it taken. -/
def quoteMark? (c : Cursor) : Option Cursor :=
  match c.spaces, c.rest with
  | 0, '>' :: _ => some ((c.advance 1).takeSpace 1).2
  | _, _ => none

/-- What is left of a line that continues the container. -/
def Container.continue? (c : Cursor) : Container → Option Cursor
  | .quote _ => quoteMark? (c.takeSpace 3).2
  | .list _ _ _ _ => some c
  | .item indent _ =>
    let (taken, c) := c.takeSpace indent
    if taken = indent ∨ c.rest.isEmpty then some c else none

/-- How many of the containers, outermost first, a line continues, and what is left of it. -/
def continueContainers : List Container → Cursor → Nat × Cursor
  | [], c => (0, c)
  | container :: containers, c =>
    match container.continue? c with
    | none => (0, c)
    | some c =>
      let (n, c) := continueContainers containers c
      (n + 1, c)

/-- A block without blocks inside, with its lines so far, latest first. -/
inductive Leaf where
  | paragraph (lines : List (List Char))
  | indentedCode (lines : List (List Char))
  /-- Code behind a fence of a mark and a length, which is indented by so many columns. -/
  | fencedCode (mark : Char) (length indent : Nat) (info : List Char) (lines : List (List Char))
  | html (ending : HtmlEnd) (lines : List (List Char))

/-- The text of lines, latest first, without blanks at the end. -/
def paragraphText (lines : List (List Char)) : List Char :=
  (lines.reverse.flatten.reverse.dropWhile isAsciiBlank).reverse

/-- The block that a leaf has become. -/
def Leaf.block : Leaf → Block
  | .paragraph lines => .paragraph (paragraphText lines)
  | .indentedCode lines => .code [] (lines.dropWhile (·.all isAsciiBlank)).reverse.flatten
  | .fencedCode _ _ _ info lines => .code info lines.reverse.flatten
  | .html _ lines => .html lines.reverse.flatten

/-- How far the reading of a document has come. -/
structure Reading where
  blocks : OpenBlocks
  leaf : Option Leaf
  definitions : Definitions

/-- The line that the cursor stands in with its end, inside a block whose text is kept. -/
def keptLine (line : Line) (c : Cursor) : List Char := c.text ++ line.keptEnding

/-- The text holds the word. -/
def containsWord (word s : List Char) : Bool := (afterWord word s).isSome

namespace Reading

/-- Nothing has been read. -/
def start : Reading := ⟨.empty, none, []⟩

/-- The open containers that a line continues, by number, and what is left of the line. -/
def continuing (r : Reading) (line : Line) : Nat × Cursor :=
  continueContainers r.blocks.containers.reverse (Cursor.start line.text)

/-- The open leaf closed. -/
def closeLeaf (r : Reading) : Reading :=
  match r.leaf with
  | none => r
  | some l => { r with blocks := r.blocks.add l.block, leaf := none }

/-- One more block that is read as a whole. -/
def add (r : Reading) (b : Block) : Reading := { r with blocks := r.blocks.add b }

/-- The leaf opened. -/
def openLeaf (r : Reading) (l : Leaf) : Reading := { r with leaf := some l }

/-- Opens the containers that a line begins, at most `bound` of them. There is nothing left of a
line that ends behind the marker of an item. -/
def openContainers : Nat → OpenBlocks → Cursor → OpenBlocks × Option Cursor
  | 0, o, c => (o, some c)
  | bound + 1, o, c =>
    let (indent, inner) := c.takeSpace 4
    if indent = 4 then (o, some c)
    else
      match listMarker? inner.rest, quoteMark? inner with
      | some marker, _ =>
        let o := o.continueList marker.mark marker.number
        let width := indent + marker.width + 1
        let after := ((inner.advance marker.width).takeSpace 1).2
        if after.isBlank then ({ o.push (.item width []) with freshItem := true }, none)
        else
          let (more, content) := after.takeSpace 4
          if more < 4 then openContainers bound (o.push (.item (width + more) [])) content
          else openContainers bound (o.push (.item width [])) after
      | none, some inner => openContainers bound (o.finishList.push (.quote [])) inner
      | none, none => (o, some c)

/-- A blank line, of which nothing is left but blanks. An item that has just begun does not go on
behind a second one. -/
def addBlank (o : OpenBlocks) : OpenBlocks :=
  match o.containers with
  | .quote _ :: _ => o
  | .item indent content :: cs =>
    { o with
      containers := .item (if o.freshItem then 0 else indent) content :: cs
      lastBlank := true }
  | _ => { o with lastBlank := true }

/-- The texts of the lines, with their ends, up to the first that is blank or does not continue
all containers; with each comes whether it ends a paragraph. -/
def followingLines (containers : List Container) : List Line → List (Bool × List Char)
  | [] => []
  | line :: lines =>
    let (n, c) := continueContainers containers (Cursor.start line.text)
    if n = containers.length ∧ !c.isBlank then
      (interruptsParagraph true c.rest || (setextLevel? c.rest).isSome, c.rest ++ line.ending) ::
        followingLines containers lines
    else []

/-- How many of the lines at the front make up so many characters. -/
def linesWithin : Nat → List (List Char) → Nat
  | _, [] => 0
  | n, line :: lines => if line.length ≤ n then linesWithin (n - line.length) lines + 1 else 0

/-- The definition that begins with the text of a line; `following` are the lines behind it. The
number of those lines that it takes comes along. -/
def readDefinition? (text : List Char) (following : List (Bool × List Char)) :
    Option (List Char × LinkTarget × Nat) :=
  let lines := following.map (·.2)
  let calm := (following.takeWhile fun l => !l.1).map (·.2)
  match definition? (text ++ calm.flatten).length (text ++ lines.flatten) with
  | none => none
  | some (label, target, rest) =>
    let taken := (text ++ lines.flatten).length - rest.length
    some (label, target, linesWithin (taken - text.length) lines)

/-- The definition known, unless the label has one. -/
def define (r : Reading) (label : List Char) (target : LinkTarget) : Reading :=
  { r with definitions := r.definitions ++ [(normaliseLabel label, target)] }

/-- Begins a block with what is left of a line; `later` are the lines behind it. The number of
those lines that the block has taken comes along. -/
def beginBlock (r : Reading) (line : Line) (c : Cursor) (later : List Line) : Reading × Nat :=
  let r := { r with blocks := r.blocks.finishList }
  let (indent, c) := c.takeSpace 4
  if indent = 4 then (r.openLeaf (.indentedCode [keptLine line c]), 0)
  else
    let s := c.rest
    let htmlEnd? := match s with
      | '<' :: t => htmlStart? t
      | _ => none
    match htmlEnd? with
    | some ending =>
      let text := List.replicate indent ' ' ++ keptLine line c
      match ending with
      | .text word =>
        if containsWord word text then (r.add (.html text), 0)
        else (r.openLeaf (.html ending [text]), 0)
      | .blankLine => (r.openLeaf (.html ending [text]), 0)
    | none =>
      if isThematicBreak s then (r.add .thematicBreak, 0)
      else
        match atxHeading? s, fence? s with
        | some level, _ => (r.add (.heading level (atxContent (s.drop level))), 0)
        | none, some (mark, length) =>
          let info := (((s.drop length).dropWhile isSpace).reverse.dropWhile isAsciiBlank).reverse
          (r.openLeaf (.fencedCode mark length indent (unescape info) []), 0)
        | none, none =>
          let following := followingLines r.blocks.containers.reverse later
          match readDefinition? (s ++ line.ending) following with
          | some (label, target, taken) => (r.define label target, taken)
          | none => (r.openLeaf (.paragraph [s ++ line.ending]), 0)

/-- Begins something new with a line that continues so many containers. -/
def beginLine (r : Reading) (line : Line) (matched : Nat) (c : Cursor) (later : List Line) :
    Reading × Nat :=
  let r := r.closeLeaf
  let blocks := r.blocks.closeMany (r.blocks.containers.length - matched)
  match openContainers (line.text.length + 1) blocks c with
  | (blocks, none) => ({ r with blocks }, 0)
  | (blocks, some c) =>
    if c.isBlank then ({ r with blocks := addBlank blocks }, 0)
    else beginBlock { r with blocks } line c later

/-- Continues a paragraph with a line, or underlines it, or tells that the line does neither;
`inside` tells that the line continues all containers. -/
def continueParagraph? (r : Reading) (line : Line) (inside : Bool) (c : Cursor)
    (lines : List (List Char)) : Option Reading :=
  let (indent, inner) := c.takeSpace 4
  let level? := if indent < 4 ∧ inside then setextLevel? inner.rest else none
  match level? with
  | some level => some ({ r with leaf := none }.add (.heading level (paragraphText lines)))
  | none =>
    if (indent < 4 ∧ interruptsParagraph inside inner.rest) ∨ c.isBlank then none
    else some (r.openLeaf (.paragraph ((c.rest ++ line.ending) :: lines)))

/-- Continues a leaf with a line that continues all containers, or tells that it does not. -/
def continueLeaf? (r : Reading) (line : Line) (c : Cursor) : Leaf → Option Reading
  | .paragraph lines => r.continueParagraph? line true c lines
  | .indentedCode lines =>
    let (taken, inner) := c.takeSpace 4
    if taken = 4 ∨ inner.rest.isEmpty then
      some { r with
        leaf := some (.indentedCode (keptLine line inner :: lines))
        blocks := { r.blocks with lastBlank := inner.isBlank } }
    else none
  | .fencedCode mark length indent info lines =>
    let c := (c.takeSpace indent).2
    let (more, inner) := c.takeSpace (4 - indent)
    if more < 4 - indent ∧ closesFence mark length inner.rest then
      some (r.openLeaf (.fencedCode mark length indent info lines)).closeLeaf
    else some (r.openLeaf (.fencedCode mark length indent info (keptLine line c :: lines)))
  | .html ending lines =>
    let r' := r.openLeaf (.html ending (keptLine line c :: lines))
    match ending with
    | .text word => some (if containsWord word (keptLine line c) then r'.closeLeaf else r')
    | .blankLine => if c.isBlank then none else some r'

/-- Takes one more line, with the lines behind it at hand; the number of those that are taken as
well comes along. -/
def addLine (r : Reading) (line : Line) (later : List Line) : Reading × Nat :=
  let (matched, c) := r.continuing line
  let inside := matched == r.blocks.containers.length
  let continued :=
    match r.leaf with
    | none => none
    | some (.paragraph lines) => r.continueParagraph? line inside c lines
    | some leaf => if inside then r.continueLeaf? line c leaf else none
  match continued with
  | some r => (r, 0)
  | none => r.beginLine line matched c later

/-- Takes all lines. -/
def addLines (r : Reading) : List Line → Reading
  | [] => r
  | line :: lines =>
    let (r, taken) := r.addLine line lines
    r.addLines (lines.drop taken)
termination_by lines => lines.length
decreasing_by simp only [List.length_drop, List.length_cons]; omega

end Reading

/-- The blocks of a document, and its definitions. -/
def readBlocks (s : List Char) : List Block × Definitions :=
  let r := (Reading.start.addLines (Line.ofText s)).closeLeaf
  (r.blocks.finish, r.definitions)

end FeatureDocs.Markdown
