import FeatureDocs.Gherkin.Layout
import FeatureDocs.Gherkin.Feature
import FeatureDocs.Text.Dedent

/-!
# Doc strings and tables

What may stand below a step. A doc string stands between two lines of three quotes or of three
backticks and loses its common indentation. In a table each row is a line of cells between bars;
the rows are cut to the width of the first, and a row that is too short aborts the reading of the
whole file.
-/

namespace FeatureDocs.Gherkin

/-- The content of a doc string up to three `quote` characters, and what follows those. Inside a
comment, which goes from `#` to the end of its line, they do not close the doc string. -/
def docStringContent (quote : Char) (inComment : Bool) :
    List Char → Option (List Char × List Char)
  | [] => none
  | c :: s =>
    if !inComment && c == quote && [quote, quote].isPrefixOf s then some ([], s.drop 2)
    else
      let inComment := if inComment then c != '\n' else c == '#'
      (docStringContent quote inComment s).map fun (content, rest) => (c :: content, rest)

namespace Reader

/-- Reads a doc string between the given quotes. -/
def docStringIn (quote : Char) : Reader String := do
  word (String.ofList [quote, quote, quote])
  let content ← fun s =>
    match docStringContent quote false s with
    | some (content, r) => .ok content r
    | none => .reject
  endOfLine
  return String.ofList (Text.dedent content)

/-- Reads a doc string. -/
def docString : Reader String := orElse (docStringIn '"') (docStringIn '\x60')

/-- The characters of a cell, and what starts with the bar or the end of the line behind it. -/
def cellRest : List Char → List Char × List Char
  | [] => ([], [])
  | '|' :: s => ([], '|' :: s)
  | '\n' :: s => ([], '\n' :: s)
  | '\r' :: '\n' :: s => ([], '\r' :: '\n' :: s)
  | c :: s => let (cell, rest) := cellRest s; (c :: cell, rest)

/-- Reads a cell behind its bar; a bar at the end of the line has no cell behind it. -/
def cell : Reader String := do
  word "|"
  skip skipBlanks
  fun s =>
    match s with
    | [] => .reject
    | s =>
      if (lineEnd? s).isSome then .reject
      else let (content, r) := cellRest s; .ok (String.ofList (Text.trim content)) r

/-- Reads a row of cells. -/
def row : Reader (List String) := do
  let cells ← separated skipBlanks cell
  skip skipBlanks
  word "|"
  skip skipBlanks
  endOfLine
  return cells

/-- Reads a table. -/
def table : Reader Table := do
  skip skipBlanks
  let rows ← separated1 skipBlanks row
  let width := (rows.head?.map List.length).getD 0
  if rows.all fun r => width ≤ r.length then return rows.map fun r => r.take width
  else abort

end Reader

end FeatureDocs.Gherkin
