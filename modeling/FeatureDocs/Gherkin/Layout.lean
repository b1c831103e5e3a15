import FeatureDocs.Gherkin.Reader

/-!
# Lines, blanks and comments

The layout of a feature file: blanks are spaces and tabs, a line ends at a line feed with an
optional carriage return before it, and a comment goes from `#` to the end of its line.

## Main definitions

* `skipBlanks`, `skipLayout`, `skipLines`, `skipComments`: what may be skipped
* `lineEnd?`, `layout?`: what has to stand at the end of a line
* `lineRest`: the rest of a line
-/

namespace FeatureDocs.Gherkin

/-- Blanks separate the words of a line. -/
def isLineBlank (c : Char) : Bool := c == ' ' || c == '\t'

/-- Behind the blanks. -/
def skipBlanks (s : List Char) : List Char := s.dropWhile isLineBlank

/-- Behind the end of a line. -/
def lineEnd? : List Char → Option (List Char)
  | '\n' :: s => some s
  | '\r' :: '\n' :: s => some s
  | _ => none

/-- The rest of a line, and what starts with the end of the line. -/
def lineRest : List Char → List Char × List Char
  | [] => ([], [])
  | '\n' :: s => ([], '\n' :: s)
  | '\r' :: '\n' :: s => ([], '\r' :: '\n' :: s)
  | c :: s => let (line, rest) := lineRest s; (c :: line, rest)

/-- Behind the end of the present line, if it has one. -/
def nextLine? : List Char → Option (List Char)
  | [] => none
  | '\n' :: s => some s
  | _ :: s => nextLine? s

theorem length_nextLine? {s r : List Char} (h : nextLine? s = some r) : r.length < s.length := by
  fun_induction nextLine? s with
  | case1 => simp at h
  | case2 s => simp at h; subst h; simp
  | case3 c s _ ih => have := ih h; simp; omega

/-- Behind all blanks, ends of lines and comments; a comment in the last line needs the end of
that line. -/
def skipLayout : List Char → List Char
  | ' ' :: s | '\t' :: s | '\n' :: s | '\r' :: '\n' :: s => skipLayout s
  | '#' :: s =>
    match _h : nextLine? s with
    | some r => skipLayout r
    | none => '#' :: s
  | s => s
termination_by s => s.length
decreasing_by
  all_goals try have := length_nextLine? _h
  all_goals simp only [List.length_cons]; omega

/-- Behind at least one blank, end of a line or comment. -/
def layout? : List Char → Option (List Char)
  | ' ' :: s | '\t' :: s | '\n' :: s | '\r' :: '\n' :: s => some (skipLayout s)
  | '#' :: s => (nextLine? s).map skipLayout
  | _ => none

/-- Behind the layout that ends a line; the end of the text ends a line too. -/
def endOfLine? : List Char → Option (List Char)
  | [] => some []
  | s => layout? s

/-- Behind the end of a line that holds nothing but, perhaps, a comment. -/
def emptyLine? (s : List Char) : Option (List Char) :=
  match skipBlanks s with
  | '#' :: r => nextLine? r
  | _ => lineEnd? s

/-- Behind all lines that hold nothing but, perhaps, a comment. -/
def skipLines (s : List Char) : List Char :=
  match emptyLine? s with
  | some r => if r.length < s.length then skipLines r else s
  | none => s
termination_by s.length

/-- Behind a comment, if there is one, and the layout that follows it. -/
def skipComments (s : List Char) : List Char :=
  match skipBlanks s with
  | '#' :: r => skipLayout ('#' :: r)
  | _ => s

/-- Behind blanks and ends of lines. -/
def skipBlankLines : List Char → List Char
  | ' ' :: s | '\t' :: s | '\n' :: s | '\r' :: '\n' :: s => skipBlankLines s
  | s => s

/-- Behind a word. -/
def word? (word : String) (s : List Char) : Option (List Char) :=
  if word.toList.isPrefixOf s then some (s.drop word.length) else none

/-- Behind the first of the spellings that the text starts with, and that spelling. Comments in
front of it are skipped. -/
def keyword? (spellings : List String) (s : List Char) : Option (String × List Char) :=
  let s := skipComments s
  spellings.findSome? fun k => (word? k s).map fun r => (k, r)

namespace Reader

/-- Reads a word. -/
def word (w : String) : Reader Unit := skip? (word? w)

/-- Reads a keyword in one of its spellings. -/
def keyword (spellings : List String) : Reader String := fun s =>
  match keyword? spellings s with
  | some (k, r) => .ok k r
  | none => .reject

/-- Reads the rest of a line, which is not empty. -/
def line : Reader (List Char) := fun s =>
  match lineRest s with
  | ([], _) => .reject
  | (cs, r) => .ok cs r

/-- Reads the layout that ends a line. -/
def endOfLine : Reader Unit := skip? endOfLine?

end Reader

end FeatureDocs.Gherkin
