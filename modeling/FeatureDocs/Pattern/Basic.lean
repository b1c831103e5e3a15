import FeatureDocs.Pattern.Error
import FeatureDocs.Pattern.Hint
import FeatureDocs.Text.Blank

/-!
# Step patterns

A step pattern is text with placeholders. A placeholder is a name in braces, optionally with a
hint after a colon; its name starts with an ASCII letter or `_`. Doubled braces and characters
after a backslash stand for themselves. Any other brace stands for itself too, but such braces
have to balance.

## Main definitions

* `Piece`, `Pattern`: a pattern that has been read
* `Pattern.parse`: the reader
* `Pattern.source`: the anchored regular expression, in writing
* `SizeLimit`, `Pattern.compile`: the reader with a limit on the size of the expression
-/

namespace FeatureDocs

/-- One piece of a pattern: a character that stands for itself, or a placeholder. -/
inductive Piece where
  | literal (c : Char)
  | placeholder (hint : Option String)
  deriving DecidableEq, Repr

/-- The written form of a piece inside the regular expression. -/
def Piece.source : Piece → List Char
  | literal c => quoteChar c
  | placeholder hint => ['('] ++ (hintRegex hint).source ++ [')']

/-- A step pattern that has been read: its pieces in order. -/
structure Pattern where
  pieces : List Piece
  deriving DecidableEq, Repr

namespace Pattern

/-- The characters that open the name of a placeholder. -/
def isNameStart (c : Char) : Bool := Text.isAsciiLetter c || c == '_'

/-- The characters of the name of a placeholder. -/
def isNameChar (c : Char) : Bool := Text.isAsciiLetter c || Text.isAsciiDigit c || c == '_'

/-- The characters of a hint. -/
def isHintChar (c : Char) : Bool := !Text.isBlank c && c != '{' && c != '}'

/-- Reads a placeholder after its opening brace, which is at `position`: its hint and what
follows its closing brace. -/
def readPlaceholder (position : Nat) (s : List Char) :
    Except PatternError (Option String × List Char) :=
  let name := String.ofList (s.takeWhile isNameChar)
  match s.dropWhile isNameChar with
  | [] => .error (.unclosedPlaceholder name position)
  | c :: r =>
    if c == '}' then .ok (none, r)
    else if c == ':' then
      match r.dropWhile isHintChar with
      | [] => .error (.unclosedPlaceholder name position)
      | d :: t =>
        let hint := r.takeWhile isHintChar
        if d == '}' && !hint.isEmpty then .ok (some (String.ofList hint), t)
        else .error (.invalidPlaceholder name position)
    else .error (.invalidPlaceholder name position)

theorem length_dropWhile_le {α : Type} (p : α → Bool) (s : List α) :
    (s.dropWhile p).length ≤ s.length :=
  (List.dropWhile_sublist p).length_le

theorem length_of_readPlaceholder {position : Nat} {s r : List Char} {hint : Option String}
    (h : readPlaceholder position s = .ok (hint, r)) : r.length < s.length := by
  unfold readPlaceholder at h
  have h₁ := length_dropWhile_le isNameChar s
  split at h
  · simp at h
  · rename_i c t heq
    rw [heq] at h₁
    simp only [List.length_cons] at h₁
    split at h
    · simp only [Except.ok.injEq, Prod.mk.injEq] at h
      obtain ⟨_, rfl⟩ := h
      omega
    · split at h
      · have h₂ := length_dropWhile_le isHintChar t
        split at h
        · simp at h
        · rename_i d u heq₂
          rw [heq₂] at h₂
          simp only [List.length_cons] at h₂
          dsimp only at h
          split at h
          · simp only [Except.ok.injEq, Prod.mk.injEq] at h
            obtain ⟨_, rfl⟩ := h
            omega
          · simp at h
      · simp at h

/-- The bytes that a text takes in UTF-8. -/
def byteLength (s : List Char) : Nat := s.foldl (fun n c => n + c.utf8Size) 0

/-- Reads the pieces of a pattern from `position` on, inside `depth` stray braces. -/
def parseFrom (depth position : Nat) : List Char → Except PatternError (List Piece)
  | [] => if depth = 0 then .ok [] else .error .unbalancedBraces
  | ['\\'] => do
    let pieces ← parseFrom depth (position + 1) []
    return .literal '\\' :: pieces
  | '\\' :: c :: s => do
    let pieces ← parseFrom depth (position + 1 + c.utf8Size) s
    return .literal c :: pieces
  | '{' :: '{' :: s => do
    let pieces ← parseFrom depth (position + 2) s
    return .literal '{' :: pieces
  | '}' :: '}' :: s => do
    let pieces ← parseFrom depth (position + 2) s
    return .literal '}' :: pieces
  | '{' :: s =>
    if s.head?.any isNameStart then
      match h : readPlaceholder position s with
      | .error e => .error e
      | .ok (hint, r) => do
        have : r.length < s.length := length_of_readPlaceholder h
        let pieces ← parseFrom depth (position + 1 + (byteLength s - byteLength r)) r
        return .placeholder hint :: pieces
    else do
      let pieces ← parseFrom (depth + 1) (position + 1) s
      return .literal '{' :: pieces
  | '}' :: s =>
    match depth with
    | 0 => .error (.unmatchedClosingBrace position)
    | depth + 1 => do
      let pieces ← parseFrom depth (position + 1) s
      return .literal '}' :: pieces
  | c :: s => do
    let pieces ← parseFrom depth (position + c.utf8Size) s
    return .literal c :: pieces
termination_by s => s.length

/-- Reads a pattern. -/
def parse (pattern : String) : Except PatternError Pattern := do
  let pieces ← parseFrom 0 0 pattern.toList
  return ⟨pieces⟩

/-- The regular expression of a pattern, in writing: its pieces between the anchors. -/
def source (p : Pattern) : String :=
  String.ofList (['^'] ++ p.pieces.flatMap Piece.source ++ ['$'])

end Pattern

/-- A limit on the size of expressions: it tells whether the expression of a pattern, once
compiled, stays within it. -/
abbrev SizeLimit := Pattern → Bool

/-- Reads a pattern whose expression is to be compiled. -/
def Pattern.compile (fits : SizeLimit) (pattern : String) : Except PatternError Pattern := do
  let p ← parse pattern
  if fits p then return p else throw .tooLarge

end FeatureDocs
