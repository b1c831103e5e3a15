import FeatureDocs.Text.Digit
import FeatureDocs.Text.Lowercase

/-!
# Regular expressions

The regular expressions that stand for the values of a placeholder. Repetition is of a class of
characters, which is all that such values need; grouping is kept in the syntax, so that an
expression is written out as it was built.

## Main definitions

* `CharClass`, `Regex`: classes and expressions, with their written forms `source`
* `Regex.Language`: the words an expression stands for
* `quote`: the written form of a text that stands for itself
-/

namespace FeatureDocs

/-- Classes of characters. -/
inductive CharClass where
  /-- One character. -/
  | exactly (c : Char)
  /-- Any of the listed characters. -/
  | among (cs : List Char)
  /-- Any decimal digit. -/
  | digit
  /-- Any character but a line feed. -/
  | notNewline
  deriving DecidableEq, Repr

namespace CharClass

/-- The class holds the character. -/
def accepts : CharClass → Char → Bool
  | exactly d, c => c == d
  | among ds, c => ds.contains c
  | digit, c => Text.isDecimalDigit c
  | notNewline, c => c != '\n'

/-- The class holds the character in one of its two ASCII cases. -/
def acceptsEitherCase (k : CharClass) (c : Char) : Bool :=
  k.accepts c || k.accepts (Text.asciiLower c) || k.accepts (Text.asciiUpper c)

/-- The class holds the character, by its letter or, with `folded`, in either ASCII case. -/
def holds (folded : Bool) (k : CharClass) (c : Char) : Bool :=
  if folded then k.acceptsEitherCase c else k.accepts c

end CharClass

/-- The characters with a meaning of their own in a written regular expression. -/
def isRegexSpecial (c : Char) : Bool :=
  "\\.+*?()|[]\x7b\x7d^$#&-~".toList.contains c

/-- The written form of a character that stands for itself. -/
def quoteChar (c : Char) : List Char := if isRegexSpecial c then ['\\', c] else [c]

/-- The written form of a text that stands for itself. -/
def quote (s : List Char) : List Char := s.flatMap quoteChar

@[simp] theorem quote_nil : quote [] = [] := rfl

@[simp] theorem quote_cons (c : Char) (s : List Char) : quote (c :: s) = quoteChar c ++ quote s :=
  rfl

@[simp] theorem quote_append (s t : List Char) : quote (s ++ t) = quote s ++ quote t := by
  simp [quote]

/-- The written form of a class. -/
def CharClass.source : CharClass → List Char
  | .exactly c => quoteChar c
  | .among cs => ['['] ++ cs ++ [']']
  | .digit => ['\\', 'd']
  | .notNewline => ['.']

/-- Regular expressions. -/
inductive Regex where
  /-- One character of a class. -/
  | one (k : CharClass)
  /-- As many characters of a class as there are. -/
  | many (k : CharClass)
  /-- At least one character of a class, the more the better. -/
  | many1 (k : CharClass)
  /-- At least one character of a class, the fewer the better. -/
  | fewest1 (k : CharClass)
  /-- The expression, or else nothing. -/
  | optional (r : Regex)
  /-- One expression after another. -/
  | seq (r s : Regex)
  /-- The first expression, or else the second. -/
  | either (r s : Regex)
  /-- A group that captures nothing. -/
  | group (r : Regex)
  /-- A group in which the case of ASCII letters is ignored. -/
  | ignoringCase (r : Regex)
  deriving DecidableEq, Repr

namespace Regex

/-- The expression for a text that stands for itself; `first` is its first character. -/
def word (first : Char) : List Char → Regex
  | [] => one (.exactly first)
  | c :: s => seq (one (.exactly first)) (word c s)

/-- The written form of an expression. -/
def source : Regex → List Char
  | one k => k.source
  | many k => k.source ++ ['*']
  | many1 k => k.source ++ ['+']
  | fewest1 k => k.source ++ ['+', '?']
  | optional r => r.source ++ ['?']
  | seq r s => r.source ++ s.source
  | either r s => r.source ++ ['|'] ++ s.source
  | group r => "(?:".toList ++ r.source ++ [')']
  | ignoringCase r => "(?i:".toList ++ r.source ++ [')']

/-- The words an expression stands for. -/
def Language (folded : Bool) : Regex → List Char → Prop
  | one k, w => ∃ c, k.holds folded c = true ∧ w = [c]
  | many k, w => ∀ c ∈ w, k.holds folded c = true
  | many1 k, w => w ≠ [] ∧ ∀ c ∈ w, k.holds folded c = true
  | fewest1 k, w => w ≠ [] ∧ ∀ c ∈ w, k.holds folded c = true
  | optional r, w => r.Language folded w ∨ w = []
  | seq r s, w => ∃ u v, w = u ++ v ∧ r.Language folded u ∧ s.Language folded v
  | either r s, w => r.Language folded w ∨ s.Language folded w
  | group r, w => r.Language folded w
  | ignoringCase r, w => r.Language true w

end Regex

end FeatureDocs
