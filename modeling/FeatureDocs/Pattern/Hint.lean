import FeatureDocs.Regex.Basic

/-!
# Type hints

The hint of a placeholder names the type of its values and thereby the expression that they
match. A placeholder without a hint, or with one that names no type known here, takes any text of
one line, at least one character and no more than needed.
-/

namespace FeatureDocs

namespace Regex

/-- Digits. -/
def unsignedInteger : Regex := many1 .digit

/-- Digits after an optional sign. -/
def signedInteger : Regex := seq (optional (one (.among ['+', '-']))) (many1 .digit)

/-- Any text of one line, as short as possible. -/
def anyText : Regex := fewest1 .notNewline

/-- Digits with a point behind or among them, with a point in front, or without a point. -/
def decimal : Regex :=
  group
    (either (seq (many1 .digit) (seq (one (.exactly '.')) (many .digit)))
      (either (seq (one (.exactly '.')) (many1 .digit)) (many1 .digit)))

/-- A power of ten: `e`, an optional sign and digits. -/
def exponent : Regex :=
  group (seq (one (.among ['e', 'E'])) (seq (optional (one (.among ['+', '-']))) (many1 .digit)))

/-- A decimal number with an optional sign and exponent, or a word for a value that has no
digits. -/
def floatingPoint : Regex :=
  ignoringCase
    (group
      (either (seq (optional (one (.among ['+', '-']))) (seq decimal (optional exponent)))
        (either (word 'n' ['a', 'n'])
          (either (word 'i' ['n', 'f']) (word 'i' "nfinity".toList)))))

end Regex

/-- The kinds of value that hints tell apart. -/
inductive ValueKind where
  | unsigned
  | signed
  | float
  | text
  deriving DecidableEq, Repr

/-- The kind of value that a hint names. -/
def ValueKind.ofHint (hint : Option String) : ValueKind :=
  match hint with
  | none => .text
  | some h =>
    if h ∈ ["u8", "u16", "u32", "u64", "u128", "usize"] then .unsigned
    else if h ∈ ["i8", "i16", "i32", "i64", "i128", "isize"] then .signed
    else if h ∈ ["f32", "f64"] then .float
    else .text

/-- The expression that the values of a kind match. -/
def ValueKind.regex : ValueKind → Regex
  | unsigned => .unsignedInteger
  | signed => .signedInteger
  | float => .floatingPoint
  | text => .anyText

/-- The expression that the values of a placeholder with this hint match. -/
def hintRegex (hint : Option String) : Regex := (ValueKind.ofHint hint).regex

end FeatureDocs
