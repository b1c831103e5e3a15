import FeatureDocs.Markdown.LinkParts

/-!
# Blocks

The blocks that a document consists of, and the document while it is being read: the containers
that are open, innermost first, each with what has been read of its content.

## Main definitions

* `Block`: a block; the text of paragraphs and headings is not yet read as inline content
* `Container`, `OpenBlocks`: what is open while a document is read
* `OpenBlocks.add`, `OpenBlocks.close`, `OpenBlocks.finish`: growing and closing the content
* `OpenBlocks.finishList`, `OpenBlocks.continueList`: where lists begin and end, and which of them
  are loose
-/

namespace FeatureDocs.Markdown

/-- A block of a document. -/
inductive Block where
  | paragraph (text : List Char)
  | heading (level : Nat) (text : List Char)
  /-- Code, and what is said about it. -/
  | code (info text : List Char)
  | html (text : List Char)
  | thematicBreak
  | quote (content : List Block)
  /-- A list, with its first number if it is numbered. The paragraphs of a tight list are bare. -/
  | list (first : Option Nat) (tight : Bool) (items : List (List Block))
  deriving Repr

/-- A container that is open, with its content so far, latest first. -/
inductive Container where
  | quote (content : List Block)
  /-- A list whose items have the mark. -/
  | list (mark : Char) (first : Nat) (tight : Bool) (items : List (List Block))
  /-- An item whose content is indented by so many columns. -/
  | item (indent : Nat) (content : List Block)

/-- What is open of a document. -/
structure OpenBlocks where
  /-- The open containers, innermost first. -/
  containers : List Container
  /-- What has been read of the document outside of them, latest first. -/
  content : List Block
  /-- The last line was blank, in a way that can make a list loose. -/
  lastBlank : Bool
  /-- The innermost item has just begun, and the rest of its line was blank. -/
  freshItem : Bool

namespace OpenBlocks

/-- Nothing has been read. -/
def empty : OpenBlocks := ⟨[], [], false, false⟩

/-- One more block inside the innermost container. -/
def add (o : OpenBlocks) (b : Block) : OpenBlocks :=
  match o.containers with
  | [] => { o with content := b :: o.content }
  | .quote content :: cs => { o with containers := .quote (b :: content) :: cs }
  | .list mark first tight items :: cs =>
    { o with containers := .list mark first tight ([b] :: items) :: cs }
  | .item indent content :: cs => { o with containers := .item indent (b :: content) :: cs }

/-- One more item in the innermost container. -/
def addItem (o : OpenBlocks) (item : List Block) : OpenBlocks :=
  match o.containers with
  | .list mark first tight items :: cs =>
    { o with containers := .list mark first tight (item :: items) :: cs }
  | _ => item.foldl add o

/-- The container opened inside the innermost one. -/
def push (o : OpenBlocks) (c : Container) : OpenBlocks :=
  { o with containers := c :: o.containers }

/-- The mark stands behind a number. -/
def isNumberMark (mark : Char) : Bool := mark == '.' || mark == ')'

/-- The innermost container closed. -/
def close (o : OpenBlocks) : OpenBlocks :=
  match o.containers with
  | [] => o
  | .quote content :: cs => { o with containers := cs }.add (.quote content.reverse)
  | .list mark first tight items :: cs =>
    { o with containers := cs }.add
      (.list (if isNumberMark mark then some first else none) tight items.reverse)
  | .item _ content :: cs => { o with containers := cs }.addItem content.reverse

/-- So many containers closed. -/
def closeMany (o : OpenBlocks) : Nat → OpenBlocks
  | 0 => o
  | n + 1 => o.close.closeMany n

/-- All blocks of the document. -/
def finish (o : OpenBlocks) : List Block := (o.closeMany o.containers.length).content.reverse

/-- An item that began with a blank line ends at a second one. -/
def finishFreshItem (o : OpenBlocks) : OpenBlocks :=
  match o.containers with
  | .item _ _ :: _ => { if o.freshItem && o.lastBlank then o.close else o with freshItem := false }
  | _ => { o with freshItem := false }

/-- The list around the innermost container is loose. -/
def loosen (o : OpenBlocks) : OpenBlocks :=
  match o.containers with
  | c :: .list mark first _ items :: cs =>
    { o with containers := c :: .list mark first false items :: cs }
  | _ => o

/-- A block that is no item follows: a list between items is at its end, and if a blank line came
before the block, the list around it is loose. -/
def finishList (o : OpenBlocks) : OpenBlocks :=
  let o := o.finishFreshItem
  let o :=
    match o.containers with
    | .list _ _ _ _ :: _ => o.close
    | _ => o
  if o.lastBlank then { o.loosen with lastBlank := false } else o

/-- An item with the mark follows: it continues the list between whose items the document stands
if that has the same mark, and begins a new list otherwise. -/
def continueList (o : OpenBlocks) (mark : Char) (number : Nat) : OpenBlocks :=
  let o := o.finishFreshItem
  let newList := { o.finishList.push (.list mark number true []) with lastBlank := false }
  match o.containers with
  | .list openMark first tight items :: cs =>
    if openMark == mark then
      { o with
        containers := .list openMark first (tight && !o.lastBlank) items :: cs
        lastBlank := false }
    else newList
  | _ => newList

end OpenBlocks

end FeatureDocs.Markdown
