import FeatureDocs.Pattern.Basic
import FeatureDocs.Proofs.Regex.Expression

/-!
# The source of a pattern reads back

`Pattern.source` writes a pattern as a regular expression: literal characters quoted, and a
capturing group for each placeholder. Read by the rules of the syntax, that text is the expression
one expects, anchored at both ends: no literal character takes on a meaning of its own, and no
fragment of a placeholder holds a capturing group. Reading goes piece by piece, because every piece
is written so that nothing behind it can change what it means.

## Main definitions

* `Regex.toExpression`, `Piece.toExpression`, `Pattern.toExpression`: what is expected

## Main results

* `Pattern.read_source`: the source of a pattern reads as its expression
* `Pattern.groups_toExpression`: which has a group for each placeholder
-/

namespace FeatureDocs

open Expression (Sign Level lexFrom readFrom)

/-- An expression without groups of its own, as an expression with groups. -/
def Regex.toExpression : Regex → Expression
  | one k => .atom (one k)
  | many k => .atom (many k)
  | many1 k => .atom (many1 k)
  | fewest1 k => .atom (fewest1 k)
  | optional r => .optional r.toExpression
  | seq r s => .seq r.toExpression s.toExpression
  | either r s => .either r.toExpression s.toExpression
  | group r => .group r.toExpression
  | ignoringCase r => .ignoringCase r.toExpression

theorem Regex.groups_toExpression (r : Regex) : r.toExpression.groups = 0 := by
  induction r <;> simp_all [toExpression, Expression.groups]

namespace Piece

/-- The expression of a piece: a character, or a group. -/
def toExpression : Piece → Expression
  | literal c => .atom (.one (.exactly c))
  | placeholder hint => .capture (hintRegex hint).toExpression

/-- The hint of a placeholder. -/
def hint? : Piece → Option (Option String)
  | literal _ => none
  | placeholder hint => some hint

end Piece

namespace Pattern

/-- The hints of the placeholders in order. -/
def hints (p : Pattern) : List (Option String) := p.pieces.filterMap Piece.hint?

/-- The expression of a pattern: its pieces between the anchors. -/
def toExpression (p : Pattern) : Expression :=
  .concat (.start :: p.pieces.map Piece.toExpression ++ [.stop])

end Pattern

/-! ## Signs -/

theorem signOf_of_not_special {c : Char} (h : isRegexSpecial c = false) :
    Expression.signOf c = .one (.exactly c) := by
  unfold Expression.signOf
  split <;> first | rfl | exact absurd h (by decide)

/-- A quoted character is one sign, whatever follows it. -/
theorem lexFrom_quoteChar (c : Char) (s : List Char) :
    lexFrom .between (quoteChar c ++ s) = .one (.exactly c) :: lexFrom .between s := by
  unfold quoteChar
  split
  · rename_i hc
    -- A backslash before `d` would make a class of it, but `d` is never quoted.
    have hd : c ≠ 'd' := by
      rintro rfl
      exact absurd hc (by decide)
    simp [lexFrom, Expression.escaped, hc, hd]
  · rename_i hc
    rw [Bool.not_eq_true] at hc
    -- What opens an escape, a group or a class is always quoted.
    have hne : ∀ d, isRegexSpecial d = true → c ≠ d := by
      rintro d hd rfl
      rw [hc] at hd
      exact Bool.false_ne_true hd
    simp [lexFrom, signOf_of_not_special hc, hne '\\' (by decide), hne '(' (by decide),
      hne '[' (by decide)]

/-- The signs of the fragment of a kind, with its group around it. -/
def ValueKind.signs (kind : ValueKind) : List Sign :=
  lexFrom .between (['('] ++ kind.regex.source ++ [')'])

set_option maxRecDepth 1024 in
/-- Whatever follows it, the fragment of a kind has the same signs. -/
theorem ValueKind.lexFrom_source (kind : ValueKind) (s : List Char) :
    lexFrom .between (['('] ++ kind.regex.source ++ [')'] ++ s) =
      kind.signs ++ lexFrom .between s := by
  cases kind <;> rfl

/-- Whatever stands around it, the fragment of a kind is read as one group. -/
theorem ValueKind.readFrom_signs (kind : ValueKind)
    (outer : List ((Expression → Expression) × Level)) (level : Level) (s : List Sign) :
    readFrom outer level (kind.signs ++ s) =
      readFrom outer (level.push (.capture kind.regex.toExpression)) s := by
  cases kind <;> rfl

/-! ## Pieces -/

/-- The signs of a piece. -/
def Piece.signs : Piece → List Sign
  | literal c => [.one (.exactly c)]
  | placeholder hint => (ValueKind.ofHint hint).signs

theorem Piece.lexFrom_source (piece : Piece) (s : List Char) :
    lexFrom .between (piece.source ++ s) = piece.signs ++ lexFrom .between s := by
  cases piece with
  | literal c => exact lexFrom_quoteChar c s
  | placeholder hint => exact (ValueKind.ofHint hint).lexFrom_source s

theorem Piece.readFrom_signs (piece : Piece)
    (outer : List ((Expression → Expression) × Level)) (level : Level) (s : List Sign) :
    readFrom outer level (piece.signs ++ s) = readFrom outer (level.push piece.toExpression) s := by
  cases piece with
  | literal c => rfl
  | placeholder hint => exact (ValueKind.ofHint hint).readFrom_signs outer level s

/-- Pieces are read one after another, up to whatever follows them. -/
theorem readFrom_pieces (pieces : List Piece) (items : List Expression) (s : List Char) :
    readFrom [] ⟨[], items⟩ (lexFrom .between (pieces.flatMap Piece.source ++ s)) =
      readFrom [] ⟨[], (pieces.map Piece.toExpression).reverse ++ items⟩ (lexFrom .between s) := by
  -- The items read so far stand in reverse, which is why they are arbitrary here.
  induction pieces generalizing items with
  | nil => rfl
  | cons piece pieces ih =>
    rw [List.flatMap_cons, List.append_assoc, Piece.lexFrom_source, Piece.readFrom_signs]
    refine (ih (piece.toExpression :: items)).trans ?_
    simp

namespace Pattern

/-- **The source of a pattern reads as its expression**, whatever characters its literals hold. -/
theorem read_source (p : Pattern) : Expression.read p.source = some p.toExpression := by
  have hl : p.source.toList = '^' :: (p.pieces.flatMap Piece.source ++ ['$']) := by
    simp [source]
  rw [Expression.read, hl]
  calc readFrom [] .fresh (lexFrom .between ('^' :: (p.pieces.flatMap Piece.source ++ ['$'])))
      = readFrom [] ⟨[], [.start]⟩
          (lexFrom .between (p.pieces.flatMap Piece.source ++ ['$'])) := rfl
    _ = readFrom [] ⟨[], (p.pieces.map Piece.toExpression).reverse ++ [.start]⟩
          (lexFrom .between ['$']) := readFrom_pieces _ _ _
    _ = some p.toExpression := by
        simp [lexFrom, Expression.signOf, readFrom, Level.push, Level.toExpression,
          Level.nextChoice, Expression.choice, toExpression]

theorem groups_concat_cons (e : Expression) (es : List Expression) :
    (Expression.concat (e :: es)).groups = e.groups + (Expression.concat es).groups := by
  cases es with
  | nil => rfl
  | cons f es => rfl

/-- The expression of a pattern has a group for each placeholder, and no other. -/
theorem groups_toExpression (p : Pattern) : p.toExpression.groups = p.hints.length := by
  have h : ∀ pieces : List Piece,
      (Expression.concat (pieces.map Piece.toExpression ++ [.stop])).groups =
        (pieces.filterMap Piece.hint?).length := by
    intro pieces
    induction pieces with
    | nil => rfl
    | cons piece pieces ih =>
      rw [List.map_cons, List.cons_append, groups_concat_cons, ih]
      cases piece with
      | literal c => exact Nat.zero_add _
      | placeholder hint =>
        rw [Piece.toExpression, Expression.groups, Regex.groups_toExpression]
        exact Nat.add_comm 1 _
  rw [toExpression, List.cons_append, groups_concat_cons, h]
  exact Nat.zero_add _

end Pattern

end FeatureDocs
