import FeatureDocs.Proofs.Pattern.Placeholder
import Mathlib.Data.List.Basic

/-!
# The tokens of a pattern

A pattern is scanned from left to right. At each point the first of these forms that applies is
taken: a backslash with the character behind it, or a last backslash; a doubled brace; a
placeholder, where a letter or `_` follows an opening brace; a stray brace; any other character.

The front of a text can be scanned on its own, as long as what is left over is kept in sight: a
token may depend on the characters behind it.

## Main definitions

* `PatternToken`, `PatternToken.piece`: tokens, and what they stand for
* `Scan`: the scan of a text
* `PatternToken.written`, `Takes`: the characters of a token, and the scan of the front of a text
* `strayDepth`: the number of stray braces that are left open

## Main results

* `scan_iff_takes`: a scan is a scan of the front that leaves nothing over
* `Takes.append`, `Takes.front`: what is put behind a text or cut off it leaves its scan as it is
* `Takes.unique`: no text has two scans
-/

namespace FeatureDocs

open Pattern (isNameStart isNameChar isHintChar)

/-- The tokens of a pattern. -/
inductive PatternToken where
  /-- A character behind a backslash. -/
  | escaped (c : Char)
  /-- A backslash with nothing behind it. -/
  | lastBackslash
  /-- Two opening braces. -/
  | doubleOpening
  /-- Two closing braces. -/
  | doubleClosing
  /-- A placeholder. -/
  | placeholder (name : List Char) (hint : Option (List Char))
  /-- A single opening brace that opens no placeholder. -/
  | strayOpening
  /-- A single closing brace that closes no placeholder. -/
  | strayClosing
  /-- Any other character. -/
  | plain (c : Char)
  deriving DecidableEq, Repr

namespace PatternToken

/-- What a token stands for. -/
def piece : PatternToken → Piece
  | escaped c | plain c => .literal c
  | lastBackslash => .literal '\\'
  | doubleOpening | strayOpening => .literal '{'
  | doubleClosing | strayClosing => .literal '}'
  | placeholder _ hint => .placeholder (hint.map String.ofList)

/-- The characters of a token. -/
def written : PatternToken → List Char
  | escaped c => ['\\', c]
  | lastBackslash => ['\\']
  | doubleOpening => ['{', '{']
  | doubleClosing => ['}', '}']
  | placeholder name none => '{' :: name ++ ['}']
  | placeholder name (some hint) => '{' :: name ++ ':' :: hint ++ ['}']
  | strayOpening => ['{']
  | strayClosing => ['}']
  | plain c => [c]

end PatternToken

/-- The scan of a text into tokens. -/
inductive Scan : List Char → List PatternToken → Prop where
  | nil : Scan [] []
  | lastBackslash : Scan ['\\'] [.lastBackslash]
  | escaped {c s ts} : Scan s ts → Scan ('\\' :: c :: s) (.escaped c :: ts)
  | doubleOpening {s ts} : Scan s ts → Scan ('{' :: '{' :: s) (.doubleOpening :: ts)
  | doubleClosing {s ts} : Scan s ts → Scan ('}' :: '}' :: s) (.doubleClosing :: ts)
  | placeholder {name s ts} : IsPlaceholderName name → Scan s ts →
      Scan ('{' :: name ++ '}' :: s) (.placeholder name none :: ts)
  | hinted {name hint s ts} : IsPlaceholderName name → IsHint hint → Scan s ts →
      Scan ('{' :: name ++ ':' :: hint ++ '}' :: s) (.placeholder name (some hint) :: ts)
  | strayOpening {s ts} : s.head? ≠ some '{' → s.head?.any isNameStart = false → Scan s ts →
      Scan ('{' :: s) (.strayOpening :: ts)
  | strayClosing {s ts} : s.head? ≠ some '}' → Scan s ts →
      Scan ('}' :: s) (.strayClosing :: ts)
  | plain {c s ts} : c ≠ '\\' → c ≠ '{' → c ≠ '}' → Scan s ts → Scan (c :: s) (.plain c :: ts)

/-- A token may be taken where `rest` stands behind it. -/
def PatternToken.FitsBefore (rest : List Char) : PatternToken → Prop
  | escaped _ | doubleOpening | doubleClosing => True
  | lastBackslash => rest = []
  | placeholder name hint => IsPlaceholderName name ∧ ∀ h ∈ hint, IsHint h
  | strayOpening => rest.head? ≠ some '{' ∧ rest.head?.any isNameStart = false
  | strayClosing => rest.head? ≠ some '}'
  | plain c => c ≠ '\\' ∧ c ≠ '{' ∧ c ≠ '}'

/-- The scan of the front of a text, which leaves `rest` over. -/
inductive Takes : List Char → List PatternToken → List Char → Prop where
  | stop {rest} : Takes rest [] rest
  | take (token : PatternToken) {s ts rest} : token.FitsBefore s → Takes s ts rest →
      Takes (token.written ++ s) (token :: ts) rest

/-- The number of stray braces that are open behind the tokens, given the number before them; none
if one is closed that was never opened. -/
def strayDepth (depth : Nat) : List PatternToken → Option Nat
  | [] => some depth
  | .strayOpening :: ts => strayDepth (depth + 1) ts
  | .strayClosing :: ts =>
    match depth with
    | 0 => none
    | depth + 1 => strayDepth depth ts
  | _ :: ts => strayDepth depth ts

/-- The stray braces behind a first token are counted on from those behind it. -/
theorem strayDepth_cons (depth : Nat) (token : PatternToken) (ts : List PatternToken) :
    strayDepth depth (token :: ts) =
      (strayDepth depth [token]).bind fun depth => strayDepth depth ts := by
  cases token with
  | strayClosing => cases depth <;> rfl
  | _ => rfl

/-! ## Scanning the front of a text -/

/-- The tokens are the part of the text that has been scanned. -/
theorem Takes.eq_append {s rest : List Char} {ts : List PatternToken} (h : Takes s ts rest) :
    s = ts.flatMap PatternToken.written ++ rest := by
  induction h with
  | stop => rfl
  | take token _ _ ih => rw [List.flatMap_cons, List.append_assoc, ← ih]

/-- A text can be scanned if its front can be scanned so that nothing is left over. -/
theorem scan_iff_takes {s : List Char} {ts : List PatternToken} : Scan s ts ↔ Takes s ts [] := by
  constructor
  · intro h
    induction h with
    | nil => exact .stop
    | lastBackslash => exact .take .lastBackslash rfl .stop
    | @escaped c s ts _ ih => exact .take (.escaped c) trivial ih
    | doubleOpening _ ih => exact .take .doubleOpening trivial ih
    | doubleClosing _ ih => exact .take .doubleClosing trivial ih
    | @placeholder name s ts hname _ ih =>
      have htakes := Takes.take (.placeholder name none) ⟨hname, by simp⟩ ih
      simpa [PatternToken.written] using htakes
    | @hinted name hint s ts hname hhint _ ih =>
      have htakes := Takes.take (.placeholder name (some hint)) ⟨hname, by simpa using hhint⟩ ih
      simpa [PatternToken.written] using htakes
    | strayOpening h₁ h₂ _ ih => exact .take .strayOpening ⟨h₁, h₂⟩ ih
    | strayClosing h₁ _ ih => exact .take .strayClosing h₁ ih
    | @plain c s ts h₁ h₂ h₃ _ ih => exact .take (.plain c) ⟨h₁, h₂, h₃⟩ ih
  · intro h
    generalize hrest : ([] : List Char) = rest at h
    induction h with
    | stop => exact hrest ▸ .nil
    | @take token s ts rest hfits _ ih =>
      have hs := ih hrest
      cases token with
      | escaped c => exact .escaped hs
      | lastBackslash =>
        -- Nothing is left behind a last backslash, so nothing has been scanned there.
        obtain rfl : s = [] := hfits
        cases hs
        exact .lastBackslash
      | doubleOpening => exact .doubleOpening hs
      | doubleClosing => exact .doubleClosing hs
      | placeholder name hint =>
        cases hint with
        | none => simpa [PatternToken.written] using Scan.placeholder hfits.1 hs
        | some hint =>
          simpa [PatternToken.written] using Scan.hinted hfits.1 (hfits.2 hint rfl) hs
      | strayOpening => exact .strayOpening hfits.1 hfits.2 hs
      | strayClosing => exact .strayClosing hfits hs
      | plain c => exact .plain hfits.1 hfits.2.1 hfits.2.2 hs

/-! ## Lookahead

A token is taken in sight of the first character behind it, and of nothing else. A scan that leaves
something over therefore goes the same way whatever is put behind that, and the front that it has
scanned can be scanned by itself. -/

/-- Whether a token may be taken is decided by the first character behind it. -/
theorem PatternToken.FitsBefore.of_head?_eq {token : PatternToken} {s t : List Char}
    (h : token.FitsBefore s) (hs : s ≠ []) (hhead : t.head? = s.head?) : token.FitsBefore t := by
  cases token with
  | escaped c => trivial
  | lastBackslash => exact absurd h hs
  | doubleOpening => trivial
  | doubleClosing => trivial
  | placeholder name hint => exact h
  | strayOpening =>
    show t.head? ≠ some '{' ∧ t.head?.any isNameStart = false
    rw [hhead]
    exact h
  | strayClosing =>
    show t.head? ≠ some '}'
    rw [hhead]
    exact h
  | plain c => exact h

/-- A token that may be taken in front of some text may be taken at the end of a text. -/
theorem PatternToken.FitsBefore.nil {token : PatternToken} {s : List Char}
    (h : token.FitsBefore s) : token.FitsBefore [] := by
  cases token with
  | escaped c => trivial
  | lastBackslash => rfl
  | doubleOpening => trivial
  | doubleClosing => trivial
  | placeholder name hint => exact h
  | strayOpening => exact ⟨by simp, rfl⟩
  | strayClosing => exact (by simp : ([] : List Char).head? ≠ some '}')
  | plain c => exact h

/-- A scan that leaves something over goes the same way with more text behind it. -/
theorem Takes.append {s rest : List Char} {ts : List PatternToken} (h : Takes s ts rest)
    (hrest : rest ≠ []) (t : List Char) : Takes (s ++ t) ts (rest ++ t) := by
  induction h with
  | stop => exact .stop
  | @take token s ts rest hfits htakes ih =>
    -- What is left over stands behind every token, so none of them is at the end.
    have hs : s ≠ [] := by
      rw [htakes.eq_append]
      exact List.append_ne_nil_of_right_ne_nil _ hrest
    rw [List.append_assoc]
    exact .take token (hfits.of_head?_eq hs (List.head?_append_of_ne_nil s hs)) (ih hrest)

/-- What has been scanned can be scanned by itself. -/
theorem Takes.front {s rest : List Char} {ts : List PatternToken} (h : Takes s ts rest) :
    Takes (ts.flatMap PatternToken.written) ts [] := by
  induction h with
  | stop => exact .stop
  | @take token s ts rest hfits htakes ih =>
    rw [List.flatMap_cons]
    refine .take token ?_ ih
    by_cases hts : ts.flatMap PatternToken.written = []
    · rw [hts]
      exact hfits.nil
    · -- The rest is cut off behind a character at least, which is what the token sees.
      have hsplit : s = ts.flatMap PatternToken.written ++ rest := htakes.eq_append
      have hhead : s.head? = (ts.flatMap PatternToken.written).head? := by
        rw [hsplit]
        exact List.head?_append_of_ne_nil _ hts
      refine hfits.of_head?_eq ?_ hhead.symm
      rw [hsplit]
      exact List.append_ne_nil_of_left_ne_nil hts rest

/-! ## No text has two scans -/

namespace PatternToken

/-- The placeholder at the front of a text that follows an opening brace, if it completes. -/
def placeholder? (s : List Char) : Option PatternToken :=
  let name := s.takeWhile isNameChar
  match s.dropWhile isNameChar with
  | '}' :: _ => some (.placeholder name none)
  | ':' :: r =>
    let hint := r.takeWhile isHintChar
    if hint ≠ [] ∧ (r.dropWhile isHintChar).head? = some '}' then
      some (.placeholder name (some hint))
    else none
  | _ => none

/-- The first token of a text: the first of the forms that applies. -/
def first? : List Char → Option PatternToken
  | [] => none
  | ['\\'] => some .lastBackslash
  | '\\' :: c :: _ => some (.escaped c)
  | '{' :: '{' :: _ => some .doubleOpening
  | '}' :: '}' :: _ => some .doubleClosing
  | '{' :: s => if s.head?.any isNameStart then placeholder? s else some .strayOpening
  | '}' :: _ => some .strayClosing
  | c :: _ => some (.plain c)

theorem first?_placeholder {s : List Char} (h : s.head?.any isNameStart = true) :
    first? ('{' :: s) = placeholder? s := by
  rw [first?]
  · rw [if_pos h]
  · -- A name does not start with a brace, so the braces are not doubled.
    rintro t rfl
    exact absurd h (by simp [isNameStart, Text.isAsciiLetter])

theorem first?_written {token : PatternToken} {s : List Char} (h : token.FitsBefore s) :
    first? (token.written ++ s) = some token := by
  cases token with
  | escaped c => rfl
  | lastBackslash =>
    obtain rfl : s = [] := h
    rfl
  | doubleOpening => rfl
  | doubleClosing => rfl
  | placeholder name hint =>
    obtain ⟨hname, hhint⟩ := h
    cases hint with
    | none =>
      obtain ⟨htake, hdrop⟩ := takeWhile_of_all (r := s) hname.2 not_isNameChar_closing
      rw [written, List.append_assoc, List.cons_append, List.singleton_append,
        first?_placeholder (head?_any_append hname.1 _)]
      simp only [placeholder?, htake, hdrop]
    | some hint =>
      have hisHint := hhint hint rfl
      obtain ⟨htake, hdrop⟩ :=
        takeWhile_of_all (r := hint ++ '}' :: s) hname.2 not_isNameChar_colon
      obtain ⟨htake', hdrop'⟩ := takeWhile_of_all (r := s) hisHint.2 not_isHintChar_closing
      have hsplit : (placeholder name (some hint)).written ++ s =
          '{' :: (name ++ ':' :: (hint ++ '}' :: s)) := by simp [written]
      rw [hsplit, first?_placeholder (head?_any_append hname.1 _)]
      simp [placeholder?, htake, hdrop, htake', hdrop', hisHint.1]
  | strayOpening =>
    rw [written, List.singleton_append, first?]
    · rw [h.2]
      rfl
    · rintro t rfl
      exact h.1 rfl
  | strayClosing =>
    rw [written, List.singleton_append, first?]
    rintro t rfl
    exact h rfl
  | plain c =>
    obtain ⟨h₁, h₂, h₃⟩ := h
    rw [written, List.singleton_append, first?]
    all_goals simp_all

end PatternToken

theorem takes_cons_iff {s rest : List Char} {token : PatternToken} {ts : List PatternToken} :
    Takes s (token :: ts) rest ↔
      ∃ s', s = token.written ++ s' ∧ token.FitsBefore s' ∧ Takes s' ts rest := by
  constructor
  · intro h
    cases h with
    | take _ hfits htakes => exact ⟨_, rfl, hfits, htakes⟩
  · rintro ⟨s', rfl, hfits, htakes⟩
    exact .take token hfits htakes

theorem Takes.head?_eq_first? {s : List Char} {ts : List PatternToken} (h : Takes s ts []) :
    ts.head? = PatternToken.first? s := by
  cases ts with
  | nil =>
    obtain rfl : s = [] := by simpa using h.eq_append
    rfl
  | cons token ts =>
    obtain ⟨s', rfl, hfits, -⟩ := takes_cons_iff.mp h
    exact (PatternToken.first?_written hfits).symm

/-- **No text has two scans.** -/
theorem Takes.unique {s : List Char} {ts ts' : List PatternToken} (h : Takes s ts [])
    (h' : Takes s ts' []) : ts = ts' := by
  induction ts generalizing s ts' with
  | nil =>
    have hhead := h'.head?_eq_first?.trans h.head?_eq_first?.symm
    exact (List.head?_eq_none_iff.mp hhead).symm
  | cons token ts ih =>
    -- Both scans start with the first token of the text, and go on behind it.
    have hhead := h'.head?_eq_first?.trans h.head?_eq_first?.symm
    obtain ⟨ts'', rfl⟩ := List.head?_eq_some_iff.mp hhead
    obtain ⟨r, rfl, -, hr⟩ := takes_cons_iff.mp h
    obtain ⟨r', heq, -, hr'⟩ := takes_cons_iff.mp h'
    obtain rfl := List.append_cancel_left heq
    rw [ih hr hr']

end FeatureDocs
