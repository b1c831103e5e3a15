import FeatureDocs.Regex.Basic

/-!
# Matching in order of preference

An expression may match several prefixes of a text. `Regex.rests` lists what each match leaves
over, the preferred match first: repetition prefers more characters or fewer, as its name says,
an option prefers its expression to nothing, and a choice prefers its first expression.
-/

namespace FeatureDocs

/-- What is left of a text after its first `0`, `1`, `2`, … characters, as long as those belong
to the class. -/
def CharClass.runs (folded : Bool) (k : CharClass) : List Char → List (List Char)
  | [] => [[]]
  | c :: s => (c :: s) :: if k.holds folded c then k.runs folded s else []

/-- What the matches of an expression at the front of a text leave over, the preferred first. -/
def Regex.rests (folded : Bool) : Regex → List Char → List (List Char)
  | one _, [] => []
  | one k, c :: s => if k.holds folded c then [s] else []
  | many k, s => (k.runs folded s).reverse
  | many1 _, [] => []
  | many1 k, c :: s => if k.holds folded c then (k.runs folded s).reverse else []
  | fewest1 _, [] => []
  | fewest1 k, c :: s => if k.holds folded c then k.runs folded s else []
  | optional r, s => r.rests folded s ++ [s]
  | seq r t, s => (r.rests folded s).flatMap (t.rests folded)
  | either r t, s => r.rests folded s ++ t.rests folded s
  | group r, s => r.rests folded s
  | ignoringCase r, s => r.rests true s

end FeatureDocs
