import FeatureDocs.Text.Blank
import FeatureDocs.Text.Lowercase

/-!
# Step keywords and step lines

A step line is a keyword, blank characters and the text of the step. The keyword may be written in
any case. A line that starts with a bullet `*`, or with no keyword, has none.

## Main definitions

* `Keyword`, `Keyword.parse`: the five keywords and their reader
* `StepLine`, `StepLine.ofString`: a step line as its keyword and its text
-/

namespace FeatureDocs

/-- The keywords that introduce a step. -/
inductive Keyword where
  | given
  | when
  | then
  | and
  | but
  deriving DecidableEq, Repr

/-- The text is no keyword. -/
structure KeywordError where
  /-- The text, trimmed. -/
  word : String
  deriving DecidableEq, Repr

/-- The text of the error. -/
def KeywordError.message (e : KeywordError) : String := "invalid step keyword: " ++ e.word

namespace Keyword

/-- The keywords in order. -/
def all : List Keyword := [given, when, .then, and, but]

/-- The canonical spelling of a keyword. -/
def name : Keyword → String
  | given => "Given"
  | when => "When"
  | .then => "Then"
  | and => "And"
  | but => "But"

/-- A conjunction takes its meaning from the step before it. -/
def isConjunction : Keyword → Bool
  | and | but => true
  | _ => false

/-- The keyword that a word spells, in any case. -/
def ofWord? (word : List Char) : Option Keyword :=
  all.find? fun k => Text.equalIgnoringAsciiCase k.name.toList word

/-- Reads a keyword, between blank characters. -/
def parse (value : String) : Except KeywordError Keyword :=
  match ofWord? (Text.trim value.toList) with
  | some k => .ok k
  | none => .error ⟨value.trimBlank⟩

end Keyword

/-- A step line: its keyword, if it has one, and its text, which starts with no blank
character. -/
structure StepLine where
  keyword : Option Keyword
  text : List Char
  deriving DecidableEq, Repr

namespace StepLine

/-- Reads the characters of a step line. -/
def ofChars (line : List Char) : StepLine :=
  match Text.trimStart line with
  | '*' :: rest => ⟨none, Text.trimStart rest⟩
  | line =>
    match line.dropWhile fun c => !Text.isBlank c with
    | [] => ⟨none, line⟩
    | _ :: rest =>
      match Keyword.ofWord? (line.takeWhile fun c => !Text.isBlank c) with
      | some k => ⟨some k, Text.trimStart rest⟩
      | none => ⟨none, line⟩

/-- Reads a step line. -/
def ofString (line : String) : StepLine := ofChars line.toList

end StepLine

end FeatureDocs
