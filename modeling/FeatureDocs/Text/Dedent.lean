import FeatureDocs.Text.Blank

/-!
# Common indentation

The lines of a text are moved to the left by the indentation that they share. Blank lines do not
count, except that a blank line that parts from the shared indentation before its own end still
shortens it; and blank lines come out empty.

## Main definitions

* `lines`: a text as its lines
* `sharedIndent`: the indentation that the lines share
* `dedent`: the text without it
-/

namespace FeatureDocs.Text

/-- A line without the carriage return at its end. -/
def dropReturn (line : List Char) : List Char :=
  match line.getLast? with
  | some '\r' => line.dropLast
  | _ => line

/-- The lines of a text, `current` being the characters of the present line, latest first. A line
ends at a line feed, and a carriage return before it does not count; what follows the last line
feed is a line only if there is something. -/
def linesFrom (current : List Char) : List Char → List (List Char)
  | [] => if current.isEmpty then [] else [current.reverse]
  | '\n' :: s => dropReturn current.reverse :: linesFrom [] s
  | c :: s => linesFrom (c :: current) s

/-- The lines of a text. -/
def lines (s : List Char) : List (List Char) := linesFrom [] s

/-- The longest beginning that two texts have in common. -/
def commonPrefix : List Char → List Char → List Char
  | c :: s, d :: t => if c == d then c :: commonPrefix s t else []
  | _, _ => []

/-- The indentation shortened to what a further line shares of it; a line that ends before it
parts from the indentation does not shorten it. -/
def narrowIndent (indent line : List Char) : List Char :=
  let shared := commonPrefix indent line
  if shared.length < line.length ∧ shared.length < indent.length then shared else indent

/-- The indentation that the lines share: that of the first line that is not blank, narrowed by
each later line. -/
def sharedIndent (ls : List (List Char)) : List Char :=
  match ls.dropWhile allBlank with
  | [] => []
  | first :: later => later.foldl narrowIndent (first.takeWhile isBlank)

/-- A line without the indentation; a line that is blank, or does not start with it, becomes
empty. -/
def stripIndent (indent line : List Char) : List Char :=
  if indent.isPrefixOf line && !allBlank line then line.drop indent.length else []

/-- A text without the indentation that its lines share. -/
def dedent (s : List Char) : List Char :=
  let ls := lines s
  let moved := (ls.map (stripIndent (sharedIndent ls))).flatMap (· ++ ['\n'])
  if s.getLast? = some '\n' then moved else moved.dropLast

end FeatureDocs.Text
