import FeatureDocs.Markdown.Character
import FeatureDocs.Markdown.ReferenceTable
import FeatureDocs.Text.Lowercase

/-!
# Character references and escapes

A character reference stands for one or two characters, by name or by code point; a backslash
before ASCII punctuation makes it stand for itself.

## Main definitions

* `characterReference?`: the reference at the front of a text
* `unescape`: a text with its references and escapes resolved
-/

namespace FeatureDocs.Markdown

/-- The value of a digit in base ten or sixteen. -/
def digitValue? (hexadecimal : Bool) (c : Char) : Option Nat :=
  if '0' ≤ c ∧ c ≤ '9' then some (c.toNat - 0x30)
  else if hexadecimal && 'a' ≤ c && c ≤ 'f' then some (c.toNat - 0x57)
  else if hexadecimal && 'A' ≤ c && c ≤ 'F' then some (c.toNat - 0x37)
  else none

/-- Reads a number of at most `limit` digits; the number of digits comes along. -/
def readNumber (hexadecimal : Bool) (value : Nat) : Nat → List Char → Nat × Nat × List Char
  | limit + 1, c :: s =>
    match digitValue? hexadecimal c with
    | some d =>
      let (v, n, rest) :=
        readNumber hexadecimal (value * (if hexadecimal then 16 else 10) + d) limit s
      (v, n + 1, rest)
    | none => (value, 0, c :: s)
  | _, s => (value, 0, s)

/-- The character of a code point; the zero byte gives way to the replacement character. -/
def characterOf? (n : Nat) : Option Char :=
  if n = 0 then some '\ufffd' else if n.isValidChar then some (Char.ofNat n) else none

/-- The character reference at the front of a text, behind its `&`: what it stands for, and what
follows it. -/
def characterReference? (s : List Char) : Option (List Char × List Char) :=
  match s with
  | '#' :: t =>
    let hexadecimal := t.head?.any fun c => c == 'x' || c == 'X'
    let (value, count, rest) :=
      if hexadecimal then readNumber true 0 6 (t.drop 1) else readNumber false 0 7 t
    match rest with
    | ';' :: rest =>
      if count = 0 then none else (characterOf? value).map fun c => ([c], rest)
    | _ => none
  | s =>
    match s.dropWhile isAsciiAlphanumeric with
    | ';' :: rest =>
      (namedReference? (s.takeWhile isAsciiAlphanumeric)).map fun value => (value, rest)
    | _ => none

/-- A text of at most `bound` characters with its references and escapes resolved. -/
def unescapeWithin : Nat → List Char → List Char
  | bound + 1, '\\' :: c :: s =>
    if isAsciiPunctuation c then c :: unescapeWithin bound s
    else '\\' :: unescapeWithin bound (c :: s)
  | bound + 1, '&' :: s =>
    match characterReference? s with
    | some (value, rest) => value ++ unescapeWithin bound rest
    | none => '&' :: unescapeWithin bound s
  | bound + 1, '\r' :: s => unescapeWithin bound s
  | bound + 1, c :: s => c :: unescapeWithin bound s
  | _, s => s

/-- A text with its references and escapes resolved; carriage returns are dropped. -/
def unescape (s : List Char) : List Char := unescapeWithin s.length s

end FeatureDocs.Markdown
