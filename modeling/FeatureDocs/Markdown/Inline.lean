import FeatureDocs.Markdown.LinkParts

/-!
# Inline content

What the text of a paragraph or heading holds, and how runs of `*` and `_` become emphasis. A run
may open emphasis, close it, or both, by the characters around it. A closing run looks back for the
nearest opening run of its kind; matched runs become strong emphasis in twos, from the inside out,
and then plain emphasis. Where a run may both open and close, two lengths whose sum is a multiple
of three match only if they are multiples of three themselves.

## Main definitions

* `Inline`: inline content
* `Span`: inline content in which runs are not yet matched
* `matchEmphasis`: the content of spans
-/

namespace FeatureDocs.Markdown

/-- Inline content. -/
inductive Inline where
  | text (s : List Char)
  | code (s : List Char)
  | html (s : List Char)
  | softBreak
  | hardBreak
  | emphasis (content : List Inline)
  | strong (content : List Inline)
  /-- A link; `mail` tells that its destination is a mail address. -/
  | link (mail : Bool) (target : LinkTarget) (content : List Inline)
  | image (target : LinkTarget) (content : List Inline)
  deriving Repr

/-- A run of one of the characters of emphasis. -/
structure Run where
  mark : Char
  /-- The length of the whole run. -/
  length : Nat
  opens : Bool
  closes : Bool
  deriving DecidableEq, Repr

/-- The run may both open and close emphasis. -/
def Run.both (r : Run) : Bool := r.opens && r.closes

/-- Inline content, or a run that may become emphasis. -/
inductive Span where
  | inline (i : Inline)
  | run (r : Run)
  deriving Repr

/-- The run between two characters, of which the first or the second may be missing at the ends of
the text. -/
def Run.between (mark : Char) (length : Nat) (before after : Option Char) : Run where
  mark
  length
  opens :=
    match after with
    | none => false
    | some a =>
      !Text.isBlank a &&
        match before with
        | none => true
        | some b => (mark == '*' && !isPunctuation a) || Text.isBlank b || isPunctuation b
  closes :=
    match before with
    | none => false
    | some b =>
      !Text.isBlank b &&
        match after with
        | none => true
        | some a => (mark == '*' && !isPunctuation b) || Text.isBlank a || isPunctuation a

/-- An opening run that has not been matched as a whole, and what follows it, latest first. -/
structure Opening where
  run : Run
  /-- The characters of the run that are left. -/
  left : Nat
  after : List Inline

/-- The opening run and the closing run belong together. -/
def Run.matches (opening closing : Run) : Bool :=
  opening.mark == closing.mark &&
    ((!opening.both && !closing.both) || (opening.length + closing.length) % 3 != 0 ||
      closing.length % 3 == 0)

/-- The text of a run. -/
def runText (mark : Char) (length : Nat) : Inline := .text (List.replicate length mark)

/-- The content wrapped in `count` characters of emphasis: strong emphasis inside, and one plain
emphasis outside if the count is odd. -/
def wrapEmphasis : Nat → List Inline → List Inline
  | 0, content => content
  | 1, content => [.emphasis content]
  | count + 2, content => wrapEmphasis count [.strong content]

/-- Unmatched openings as text: all content behind the given one, latest first. -/
def flattenOpenings : List Opening → List Inline → List Inline
  | [], base => base
  | o :: os, base => o.after ++ runText o.run.mark o.left :: flattenOpenings os base

/-- The nearest opening that a closing run matches, with the openings above it and those below. -/
def findOpening (closing : Run) : List Opening → Option (List Opening × Opening × List Opening)
  | [] => none
  | o :: os =>
    if o.run.matches closing then some ([], o, os)
    else (findOpening closing os).map fun (above, found, below) => (o :: above, found, below)

/-- Puts content, latest first, behind the latest opening or, without one, behind the base. -/
def appendContent (content : List Inline) :
    List Opening × List Inline → List Opening × List Inline
  | (o :: os, base) => ({ o with after := content ++ o.after } :: os, base)
  | ([], base) => ([], content ++ base)

/-- Matches what is left of a closing run, at most `bound` times, and tells what is left then. -/
def closeRun (closing : Run) : Nat → Nat → List Opening × List Inline →
    Nat × (List Opening × List Inline)
  | bound + 1, left + 1, (openings, base) =>
    match findOpening closing openings with
    | none => (left + 1, (openings, base))
    | some (above, o, below) =>
      let count := min (left + 1) o.left
      let content := (flattenOpenings above o.after).reverse
      let wrapped := wrapEmphasis count content
      let state :=
        if count < o.left then
          ({ o with left := o.left - count, after := wrapped.reverse } :: below, base)
        else appendContent wrapped.reverse (below, base)
      closeRun closing bound (left + 1 - count) state
  | _, left, state => (left, state)

/-- Takes one more span into account. -/
def addSpan (state : List Opening × List Inline) : Span → List Opening × List Inline
  | .inline i => appendContent [i] state
  | .run r =>
    let (left, state) := if r.closes then closeRun r r.length r.length state else (r.length, state)
    if left = 0 then state
    else if r.opens then (⟨r, left, []⟩ :: state.1, state.2)
    else appendContent [runText r.mark left] state

/-- The content of spans. -/
def matchEmphasis (spans : List Span) : List Inline :=
  let (openings, base) := spans.foldl addSpan ([], [])
  (flattenOpenings openings base).reverse

end FeatureDocs.Markdown
