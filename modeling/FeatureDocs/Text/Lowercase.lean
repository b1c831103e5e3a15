import FeatureDocs.Text.CaseTable

/-!
# Lower-casing

The full lower-casing of Unicode: a capital letter gives way to its lower-case letter, a capital
`I` with a dot to `i` and a combining dot, and a capital sigma to its final form at the end of a
word and to its ordinary form elsewhere. ASCII letters have a function of their own, which leaves
every other character alone.
-/

namespace FeatureDocs.Text

/-- The lower-case form of an ASCII capital letter; any other character stands for itself. -/
def asciiLower (c : Char) : Char :=
  if 'A' ≤ c ∧ c ≤ 'Z' then Char.ofNat (c.toNat + 32) else c

/-- The capital form of an ASCII lower-case letter; any other character stands for itself. -/
def asciiUpper (c : Char) : Char :=
  if 'a' ≤ c ∧ c ≤ 'z' then Char.ofNat (c.toNat - 32) else c

/-- Equality up to the case of ASCII letters. -/
def equalIgnoringAsciiCase (s t : List Char) : Bool := s.map asciiLower == t.map asciiLower

/-- The run of capital letters that holds the character. -/
def capitalRun? (c : Char) : Option CapitalRun :=
  capitalRuns.find? fun r =>
    r.first ≤ c.toNat && c.toNat ≤ r.last && (c.toNat - r.first) % r.stride == 0

/-- The lower-case form of one character outside any word. -/
def lowerChar (c : Char) : List Char :=
  if c.toNat < 0x80 then [asciiLower c]
  else if c.toNat == 0x130 then ['i', Char.ofNat 0x307]
  else
    match capitalRun? c with
    | some r => [Char.ofNat (Int.toNat (c.toNat + r.distance))]
    | none => [c]

/-- Past ignorable characters, the text goes on with a cased character. -/
def casedAhead (s : List Char) : Bool :=
  match s.dropWhile fun c => inRanges caseIgnorableRanges c.toNat with
  | c :: _ => inRanges casedRanges c.toNat
  | [] => false

/-- Lower-casing of a text whose earlier characters, latest first, are given. -/
def lowerAfter (before : List Char) : List Char → List Char
  | [] => []
  | c :: s =>
    let lowered :=
      if c.toNat == 0x3A3 then
        [Char.ofNat (if casedAhead before && !casedAhead s then 0x3C2 else 0x3C3)]
      else lowerChar c
    lowered ++ lowerAfter (c :: before) s

/-- The lower-case form of a text. -/
def lower (s : List Char) : List Char := lowerAfter [] s

end FeatureDocs.Text

namespace String

/-- The lower-case form of a string, in full Unicode. -/
def lowercase (s : String) : String := ofList (FeatureDocs.Text.lower s.toList)

end String
