import FeatureDocs.Pattern.Basic
import FeatureDocs.Regex.Match

/-!
# Matching a step text

A pattern matches a text as a whole. Of all ways to do so the preferred one counts: it is decided
from left to right, each placeholder taking its preferred value among those that let the rest of
the pattern match. The search goes piece by piece, with all that the pieces so far can leave over,
in order of preference. Two ways that leave the same text over have the same future, so only the
preferred one of them is kept, and the search takes no more than quadratic time per piece.
-/

namespace FeatureDocs

/-- A way to match the first pieces of a pattern: what it leaves over, and, for each placeholder,
latest first, the text before its value and the text after it. -/
structure Progress where
  rest : List Char
  spans : List (List Char × List Char)

namespace Progress

/-- The ways to match one more piece. -/
def advance (p : Progress) : Piece → List Progress
  | .literal c =>
    match p.rest with
    | d :: s => if c == d then [{ p with rest := s }] else []
    | [] => []
  | .placeholder hint =>
    ((hintRegex hint).rests false p.rest).map fun s => ⟨s, (p.rest, s) :: p.spans⟩

/-- The values of the placeholders, in order. -/
def captures (p : Progress) : List String :=
  (p.spans.map fun (before, after) =>
    String.ofList (before.take (before.length - after.length))).reverse

/-- The first of the ways that leave the same text over; `seen` holds the lengths already met. -/
def keepFirst (seen : List Nat) : List Progress → List Progress
  | [] => []
  | p :: ps =>
    let n := p.rest.length
    if seen.contains n then keepFirst seen ps else p :: keepFirst (n :: seen) ps

end Progress

namespace Pattern

/-- The ways to match the pieces, from the given ways to match the pieces before them. -/
def search : List Piece → List Progress → List Progress
  | [], ways => ways
  | piece :: pieces, ways =>
    search pieces (Progress.keepFirst [] (ways.flatMap fun p => p.advance piece))

/-- The values of the placeholders in the preferred match of a text. -/
def captures? (p : Pattern) (text : String) : Option (List String) :=
  ((search p.pieces [⟨text.toList, []⟩]).find? fun way => way.rest.isEmpty).map Progress.captures

end Pattern

end FeatureDocs
