/-!
# Blank characters

A character is blank when Unicode gives it the property `White_Space`. Trimming removes blank
characters at the ends of a text; the functions on `List Char` carry the rules, and those on
`String` are their liftings.

## Main definitions

* `isBlank`: the property of one character
* `trimStart`, `trimEnd`, `trim`: blank characters removed in front, behind, at both ends
-/

namespace FeatureDocs.Text

/-- The characters with the property `White_Space`. -/
def isBlank (c : Char) : Bool :=
  (0x09 ≤ c.val && c.val ≤ 0x0D) || c.val == 0x20 || c.val == 0x85 || c.val == 0xA0 ||
    c.val == 0x1680 || (0x2000 ≤ c.val && c.val ≤ 0x200A) || c.val == 0x2028 ||
    c.val == 0x2029 || c.val == 0x202F || c.val == 0x205F || c.val == 0x3000

/-- A text is blank when all its characters are. -/
def allBlank (s : List Char) : Bool := s.all isBlank

/-- The text without the blank characters in front. -/
def trimStart (s : List Char) : List Char := s.dropWhile isBlank

/-- The text without the blank characters behind. -/
def trimEnd : List Char → List Char
  | [] => []
  | c :: s =>
    match trimEnd s with
    | [] => if isBlank c then [] else [c]
    | t => c :: t

/-- The text without the blank characters at either end. -/
def trim (s : List Char) : List Char := trimEnd (trimStart s)

@[simp] theorem trimStart_nil : trimStart [] = [] := rfl

@[simp] theorem trimEnd_nil : trimEnd [] = [] := rfl

theorem trimStart_cons_of_blank {c : Char} (h : isBlank c = true) (s : List Char) :
    trimStart (c :: s) = trimStart s := by
  simp [trimStart, h]

theorem trimStart_cons_of_not_blank {c : Char} (h : isBlank c = false) (s : List Char) :
    trimStart (c :: s) = c :: s := by
  simp [trimStart, h]

end FeatureDocs.Text

namespace String

open FeatureDocs

/-- The string without the blank characters behind. -/
def trimBlankEnd (s : String) : String := ofList (Text.trimEnd s.toList)

/-- The string without the blank characters at either end. -/
def trimBlank (s : String) : String := ofList (Text.trim s.toList)

end String
