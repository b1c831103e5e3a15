import FeatureDocs.Pattern.Basic

/-!
# The size of a compiled pattern

An estimate of the space that the expression of a pattern takes once it is compiled, and the limit
that goes by it.
-/

namespace FeatureDocs

/-- The space, in bytes, that an expression takes once compiled: next to the table of the decimal
digits all else is small. -/
def Regex.footprint : Regex → Nat
  | one k | many k | many1 k | fewest1 k => if k = .digit then 4096 else 64
  | optional r | group r | ignoringCase r => r.footprint + 64
  | seq r s | either r s => r.footprint + s.footprint + 64

/-- The space that a piece takes once compiled. A character takes a state for each of its bytes. -/
def Piece.footprint : Piece → Nat
  | literal c => 32 * c.utf8Size
  | placeholder hint => (hintRegex hint).footprint + 128

/-- The space that the expression of a pattern takes once compiled. -/
def Pattern.footprint (p : Pattern) : Nat := p.pieces.foldl (fun n piece => n + piece.footprint) 0

/-- The limit that goes by the estimate. -/
def SizeLimit.estimated : SizeLimit := fun p => p.footprint ≤ regexSizeLimit

end FeatureDocs
