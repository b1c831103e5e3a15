import FeatureDocs.Proofs.Pattern.Scan

/-!
# The reader of patterns

The reader follows the scan of a pattern token by token. It accepts a pattern that can be scanned to
its end with its stray braces in balance, and a pattern that it has read consists of what the tokens
stand for. Any other pattern it refuses, with the error of the first token that is an offence; only
if there is none does it complain about braces that are left open.

## Main definitions

* `Offence`: tokens that end a scan, each with its error

## Main results

* `parseFrom_of_takes`: the reader follows the scan
* `scanStops`: every text can be scanned to its end or up to an offence
* `Pattern.parse_eq_ok_iff`: the patterns that are accepted, and what is read
* `Pattern.parse_follows_grammar`: the same in writing, and the patterns that are refused
-/

namespace FeatureDocs

open Pattern (isNameStart readPlaceholder parseFrom)

/-- A token that ends a scan inside `depth` stray braces, and its error: a stray closing brace that
closes nothing, or a placeholder that does not complete. -/
inductive Offence (depth position : Nat) : List Char → PatternError → Prop where
  | closing {s} : depth = 0 → s.head? ≠ some '}' →
      Offence depth position ('}' :: s) (.unmatchedClosingBrace position)
  | placeholder {s e} : BrokenPlaceholder position s e → Offence depth position ('{' :: s) e

/-! ## The reader -/

namespace Pattern

theorem foldl_utf8Size (s : List Char) (n : Nat) :
    s.foldl (fun n c => n + c.utf8Size) n = n + byteLength s := by
  induction s generalizing n with
  | nil => rfl
  | cons c s ih =>
    rw [byteLength, List.foldl_cons, List.foldl_cons, ih, ih (0 + c.utf8Size)]
    omega

@[simp] theorem byteLength_nil : byteLength [] = 0 := rfl

@[simp] theorem byteLength_cons (c : Char) (s : List Char) :
    byteLength (c :: s) = c.utf8Size + byteLength s := by
  rw [byteLength, List.foldl_cons, foldl_utf8Size, Nat.zero_add]

@[simp] theorem byteLength_append (s t : List Char) :
    byteLength (s ++ t) = byteLength s + byteLength t := by
  rw [byteLength, List.foldl_append, foldl_utf8Size, foldl_utf8Size, Nat.zero_add]

end Pattern

/-- A reader that puts a piece in front of what it goes on to read. -/
theorem bind_cons_eq_map (x : Except PatternError (List Piece)) (piece : Piece) :
    (do let rest ← x; return piece :: rest) = x.map (piece :: ·) := by
  cases x <;> rfl

theorem map_map_append (x : Except PatternError (List Piece)) (us vs : List Piece) :
    (x.map (vs ++ ·)).map (us ++ ·) = x.map (us ++ vs ++ ·) := by
  cases x with
  | error e => rfl
  | ok pieces => exact congrArg Except.ok (List.append_assoc us vs pieces).symm

/-- A placeholder that can be read is read, and the reader goes on behind it. -/
theorem parseFrom_placeholder {depth position : Nat} {body s : List Char} {hint : Option String}
    (hbody : body.head?.any isNameStart = true)
    (hread : readPlaceholder position (body ++ s) = .ok (hint, s)) :
    parseFrom depth position ('{' :: body ++ s) =
      (parseFrom depth (position + Pattern.byteLength ('{' :: body)) s).map
        (.placeholder hint :: ·) := by
  have hstart := head?_any_append hbody s
  have hposition : position + 1 + (Pattern.byteLength (body ++ s) - Pattern.byteLength s) =
      position + Pattern.byteLength ('{' :: body) := by
    have hbrace : '{'.utf8Size = 1 := by decide
    rw [Pattern.byteLength_append, Pattern.byteLength_cons, hbrace]
    omega
  rw [List.cons_append, parseFrom]
  · rw [if_pos hstart]
    split
    · rename_i e he
      simp [hread] at he
    · rename_i hint' s' hread'
      obtain ⟨rfl, rfl⟩ : hint = hint' ∧ s = s' := by simpa using hread.symm.trans hread'
      rw [bind_cons_eq_map, hposition]
  · -- A name does not start with a brace, so the braces are not doubled.
    intro t ht
    rw [ht] at hstart
    exact absurd hstart (by simp [isNameStart, Text.isAsciiLetter])

/-- **The reader takes a token off the front of the text**, counts its stray brace, and goes on
behind it. -/
theorem parseFrom_token {token : PatternToken} {s : List Char} (hfits : token.FitsBefore s)
    {depth depth' : Nat} (hd : strayDepth depth [token] = some depth') (position : Nat) :
    parseFrom depth position (token.written ++ s) =
      (parseFrom depth' (position + Pattern.byteLength token.written) s).map
        (token.piece :: ·) := by
  have hslash : '\\'.utf8Size = 1 := by decide
  have hopening : '{'.utf8Size = 1 := by decide
  have hclosing : '}'.utf8Size = 1 := by decide
  cases token with
  | escaped c =>
    obtain rfl := Option.some.inj hd
    simp only [PatternToken.written, List.cons_append, List.nil_append]
    rw [parseFrom, bind_cons_eq_map]
    simp [PatternToken.piece, hslash, Nat.add_assoc]
  | lastBackslash =>
    obtain rfl := Option.some.inj hd
    obtain rfl : s = [] := hfits
    simp only [PatternToken.written, List.append_nil]
    conv => lhs; rw [parseFrom]
    rw [bind_cons_eq_map]
    simp [PatternToken.piece, hslash]
  | doubleOpening =>
    obtain rfl := Option.some.inj hd
    simp only [PatternToken.written, List.cons_append, List.nil_append]
    rw [parseFrom, bind_cons_eq_map]
    simp [PatternToken.piece, hopening]
  | doubleClosing =>
    obtain rfl := Option.some.inj hd
    simp only [PatternToken.written, List.cons_append, List.nil_append]
    rw [parseFrom, bind_cons_eq_map]
    simp [PatternToken.piece, hclosing]
  | placeholder name hint =>
    obtain rfl := Option.some.inj hd
    obtain ⟨hname, hhint⟩ := hfits
    cases hint with
    | none =>
      have hread : readPlaceholder position (name ++ '}' :: s) = .ok (none, s) :=
        readPlaceholder_name hname
      have hbody : (name ++ ['}']).head?.any isNameStart = true := head?_any_append hname.1 _
      exact parseFrom_placeholder hbody (by simpa using hread)
    | some hint =>
      have hread : readPlaceholder position (name ++ ':' :: hint ++ '}' :: s) =
          .ok (some (String.ofList hint), s) := readPlaceholder_hinted hname (hhint hint rfl)
      have hbody : (name ++ ':' :: hint ++ ['}']).head?.any isNameStart = true :=
        head?_any_append (head?_any_append hname.1 _) _
      exact parseFrom_placeholder hbody (by simpa using hread)
  | strayOpening =>
    obtain rfl := Option.some.inj hd
    simp only [PatternToken.written, List.cons_append, List.nil_append]
    rw [parseFrom]
    · rw [if_neg (Bool.eq_false_iff.mp hfits.2), bind_cons_eq_map]
      simp [PatternToken.piece, hopening]
    · rintro t rfl
      exact hfits.1 rfl
  | strayClosing =>
    cases depth with
    | zero => simp [strayDepth] at hd
    | succ depth =>
      obtain rfl := Option.some.inj hd
      simp only [PatternToken.written, List.cons_append, List.nil_append]
      rw [parseFrom]
      · rw [bind_cons_eq_map]
        simp [PatternToken.piece, hclosing]
      · rintro t rfl
        exact hfits rfl
  | plain c =>
    obtain rfl := Option.some.inj hd
    obtain ⟨h₁, h₂, h₃⟩ := hfits
    simp only [PatternToken.written, List.cons_append, List.nil_append]
    rw [parseFrom]
    · rw [bind_cons_eq_map]
      simp [PatternToken.piece]
    all_goals simp_all

/-- **The reader follows the scan**: behind the tokens that have been taken it goes on as it would
from there, inside the stray braces that are open, and puts what they stand for in front. -/
theorem parseFrom_of_takes {s rest : List Char} {ts : List PatternToken} (h : Takes s ts rest)
    {depth depth' : Nat} (hd : strayDepth depth ts = some depth') (position : Nat) :
    parseFrom depth position s =
      (parseFrom depth' (position + Pattern.byteLength (ts.flatMap PatternToken.written))
        rest).map (ts.map PatternToken.piece ++ ·) := by
  induction h generalizing depth position with
  | stop =>
    obtain rfl := Option.some.inj hd
    cases hrest : parseFrom depth position _ <;> simp [hrest, Except.map]
  | @take token s ts rest hfits _ ih =>
    rw [strayDepth_cons] at hd
    obtain ⟨between, htoken, hrest⟩ := Option.bind_eq_some_iff.mp hd
    rw [parseFrom_token hfits htoken, ih hrest, List.flatMap_cons, Pattern.byteLength_append,
      Nat.add_assoc]
    exact map_map_append _ [token.piece] _

/-- An offence ends the reading with its error. -/
theorem parseFrom_of_offence {depth position : Nat} {s : List Char} {e : PatternError}
    (h : Offence depth position s e) : parseFrom depth position s = .error e := by
  cases h with
  | closing hd hs =>
    subst hd
    rw [Pattern.parseFrom]
    rintro t rfl
    exact hs rfl
  | @placeholder s _ hbroken =>
    have hs := hbroken.head?_any
    rw [Pattern.parseFrom]
    · rw [if_pos hs]
      split
      · rename_i e' he'
        rw [readPlaceholder_of_broken hbroken, Except.error.injEq] at he'
        rw [he']
      · rename_i hread
        simp [readPlaceholder_of_broken hbroken] at hread
    · rintro t rfl
      exact absurd hs (by simp [isNameStart, Text.isAsciiLetter])

theorem head?_ne_some {s : List Char} {c : Char} (h : ∀ t, s = c :: t → False) :
    s.head? ≠ some c := by
  intro hs
  obtain ⟨t, rfl⟩ := List.head?_eq_some_iff.mp hs
  exact h t rfl

/-- The scan of a text inside `depth` stray braces comes to its end or stops at an offence. -/
def ScanStops (depth : Nat) (s : List Char) : Prop :=
  ∃ ts rest depth', Takes s ts rest ∧ strayDepth depth ts = some depth' ∧
    (rest = [] ∨ ∀ position, ∃ e, Offence depth' position rest e)

/-- A token in front of a scan. -/
theorem ScanStops.take {depth depth' : Nat} {s : List Char} (h : ScanStops depth' s)
    (token : PatternToken) (hfits : token.FitsBefore s)
    (hd : strayDepth depth [token] = some depth') : ScanStops depth (token.written ++ s) := by
  obtain ⟨ts, rest, last, htakes, hlast, hstop⟩ := h
  refine ⟨token :: ts, rest, last, .take token hfits htakes, ?_, hstop⟩
  rw [strayDepth_cons, hd]
  exact hlast

/-- An offence at once. -/
theorem ScanStops.offence {depth : Nat} {s : List Char}
    (h : ∀ position, ∃ e, Offence depth position s e) : ScanStops depth s :=
  ⟨[], s, depth, .stop, rfl, Or.inr h⟩

/-- **Every text can be scanned to its end or up to an offence.** The recursion of the reader takes
one token at a time. -/
theorem scanStops (depth position : Nat) (s : List Char) : ScanStops depth s := by
  fun_induction parseFrom depth position s with
  | case1 | case2 => exact ⟨[], [], _, .stop, rfl, Or.inl rfl⟩
  | case3 depth position ih => exact ih.take .lastBackslash rfl rfl
  | case4 depth position c s ih => exact ih.take (.escaped c) trivial rfl
  | case5 depth position s ih => exact ih.take .doubleOpening trivial rfl
  | case6 depth position s ih => exact ih.take .doubleClosing trivial rfl
  | case7 depth position s _ hs e hread =>
    -- A placeholder that can be read is none that the reader refuses.
    obtain ⟨name, r, hname, rfl⟩ | ⟨name, hint, r, hname, hhint, rfl⟩ | hbroken :=
      placeholder_cases hs
    · rw [readPlaceholder_name hname] at hread
      simp at hread
    · rw [readPlaceholder_hinted hname hhint] at hread
      simp at hread
    · refine .offence fun position => ?_
      obtain ⟨e', he'⟩ := hbroken position
      exact ⟨e', .placeholder he'⟩
  | case8 depth position s _ hs hint r hread _ ih =>
    obtain ⟨name, r', hname, rfl⟩ | ⟨name, w, r', hname, hhint, rfl⟩ | hbroken :=
      placeholder_cases hs
    · rw [readPlaceholder_name hname] at hread
      obtain ⟨rfl, rfl⟩ := Prod.mk.inj (Except.ok.inj hread)
      have hstops := ih.take (.placeholder name none) ⟨hname, by simp⟩ rfl
      simpa [PatternToken.written] using hstops
    · rw [readPlaceholder_hinted hname hhint] at hread
      obtain ⟨rfl, rfl⟩ := Prod.mk.inj (Except.ok.inj hread)
      have hstops := ih.take (.placeholder name (some w)) ⟨hname, by simpa using hhint⟩ rfl
      simpa [PatternToken.written] using hstops
    · obtain ⟨e, he⟩ := hbroken position
      simp [readPlaceholder_of_broken he] at hread
  | case9 depth position s hne hs ih =>
    -- Two braces in a row have been read before.
    exact ih.take .strayOpening ⟨head?_ne_some hne, by simpa using hs⟩ rfl
  | case10 position s hne =>
    exact .offence fun position => ⟨_, .closing rfl (head?_ne_some hne)⟩
  | case11 position s hne depth ih =>
    exact ih.take .strayClosing (head?_ne_some hne) rfl
  | case12 depth position c s h₁ h₂ _ _ h₃ h₄ ih =>
    -- No form above applies, so the character is none of those with a meaning.
    have hc : c ≠ '\\' := by
      rintro rfl
      cases s with
      | nil => exact h₁ rfl rfl
      | cons d t => exact h₂ d t rfl rfl
    exact ih.take (.plain c) ⟨hc, h₃, h₄⟩ rfl

/-- A text can be scanned, its stray braces balance at the given depth, and its tokens stand for
the pieces. -/
def Scannable (depth : Nat) (s : List Char) (pieces : List Piece) : Prop :=
  ∃ ts, Scan s ts ∧ strayDepth depth ts = some 0 ∧ pieces = ts.map PatternToken.piece

/-- The reader comes to the end of a text exactly if the scan does and leaves no stray brace
open. -/
theorem parseFrom_eq_ok_iff (position : Nat) {s : List Char} {pieces : List Piece} :
    parseFrom 0 position s = .ok pieces ↔ Scannable 0 s pieces := by
  constructor
  · intro h
    obtain ⟨ts, rest, depth, htakes, hdepth, hstop⟩ := scanStops 0 position s
    rw [parseFrom_of_takes htakes hdepth] at h
    rcases hstop with rfl | hoffence
    · rw [parseFrom] at h
      by_cases hzero : depth = 0
      · subst hzero
        exact ⟨ts, scan_iff_takes.mpr htakes, hdepth, by simpa [Except.map, eq_comm] using h⟩
      · simp [hzero, Except.map] at h
    · obtain ⟨e, he⟩ := hoffence (position + Pattern.byteLength (ts.flatMap PatternToken.written))
      simp [parseFrom_of_offence he, Except.map] at h
  · rintro ⟨ts, hscan, hdepth, rfl⟩
    rw [parseFrom_of_takes (scan_iff_takes.mp hscan) hdepth, parseFrom]
    simp [Except.map]

/-- The reader refuses a text with the error of the offence at which the scan stops, or because of
the stray braces that are open at its end. -/
theorem parseFrom_eq_error_iff (position : Nat) {s : List Char} {e : PatternError} :
    parseFrom 0 position s = .error e ↔
      (∃ ts rest depth, Takes s ts rest ∧ strayDepth 0 ts = some depth ∧
          Offence depth (position + Pattern.byteLength (ts.flatMap PatternToken.written)) rest e) ∨
        e = .unbalancedBraces ∧
          ∃ ts depth, Takes s ts [] ∧ strayDepth 0 ts = some (depth + 1) := by
  constructor
  · intro h
    obtain ⟨ts, rest, depth, htakes, hdepth, hstop⟩ := scanStops 0 position s
    rw [parseFrom_of_takes htakes hdepth] at h
    rcases hstop with rfl | hoffence
    · rw [parseFrom] at h
      cases depth with
      | zero => simp [Except.map] at h
      | succ depth =>
        have he : PatternError.unbalancedBraces = e := by simpa [Except.map] using h
        exact Or.inr ⟨he.symm, ts, depth, htakes, hdepth⟩
    · obtain ⟨e', he'⟩ :=
        hoffence (position + Pattern.byteLength (ts.flatMap PatternToken.written))
      rw [parseFrom_of_offence he'] at h
      obtain rfl := Except.error.inj h
      exact Or.inl ⟨ts, rest, depth, htakes, hdepth, he'⟩
  · rintro (⟨ts, rest, depth, htakes, hdepth, hoffence⟩ | ⟨rfl, ts, depth, htakes, hdepth⟩)
    · rw [parseFrom_of_takes htakes hdepth, parseFrom_of_offence hoffence]
      rfl
    · rw [parseFrom_of_takes htakes hdepth, parseFrom]
      rfl

namespace Pattern

theorem parse_eq_map (pattern : String) :
    parse pattern = (parseFrom 0 0 pattern.toList).map Pattern.mk := by
  rw [parse]
  cases parseFrom 0 0 pattern.toList <;> rfl

/-- **The reader accepts exactly the texts that can be scanned with their stray braces in
balance**, and reads what the tokens stand for. -/
theorem parse_eq_ok_iff {pattern : String} {p : Pattern} :
    parse pattern = .ok p ↔ Scannable 0 pattern.toList p.pieces := by
  rw [parse_eq_map, ← parseFrom_eq_ok_iff 0]
  cases parseFrom 0 0 pattern.toList with
  | error e => simp [Except.map]
  | ok pieces =>
    simp only [Except.map, Except.ok.injEq]
    exact ⟨fun hp => hp ▸ rfl, fun hp => hp ▸ rfl⟩

theorem parse_eq_error_iff {pattern : String} {e : PatternError} :
    parse pattern = .error e ↔ parseFrom 0 0 pattern.toList = .error e := by
  rw [parse_eq_map]
  cases parseFrom 0 0 pattern.toList <;> simp [Except.map]

/-- **Patterns are accepted and refused by their grammar.**

A pattern is accepted if it can be scanned to its end and its stray braces alone, those outside of
escapes, doubled braces and placeholders, balance and are never closed before they are opened. Its
regular expression is then what the tokens stand for, one after another, between the anchors:
characters quoted, and one group for each placeholder. A pattern is refused with the error of the
first token that cannot be taken, at its position in bytes; and because of unbalanced braces if all
tokens can be taken, but leave stray braces open. A pattern has no more than one scan. -/
theorem parse_follows_grammar (pattern : String) :
    (∀ source, (parse pattern).map Pattern.source = .ok source ↔
      ∃ ts, Takes pattern.toList ts [] ∧ strayDepth 0 ts = some 0 ∧
        source = String.ofList (['^'] ++ ts.flatMap (fun t => t.piece.source) ++ ['$'])) ∧
      (∀ e, parse pattern = .error e ↔
        (∃ ts rest depth, Takes pattern.toList ts rest ∧ strayDepth 0 ts = some depth ∧
            Offence depth (byteLength (ts.flatMap PatternToken.written)) rest e) ∨
          e = .unbalancedBraces ∧
            ∃ ts depth, Takes pattern.toList ts [] ∧ strayDepth 0 ts = some (depth + 1)) ∧
      ∀ ts ts', Takes pattern.toList ts [] → Takes pattern.toList ts' [] → ts = ts' := by
  refine ⟨fun source => ?_, fun e => ?_, fun ts ts' h h' => h.unique h'⟩
  · constructor
    · intro h
      cases hparse : parse pattern with
      | error e => simp [hparse, Except.map] at h
      | ok p =>
        rw [hparse] at h
        obtain ⟨ts, hscan, hdepth, hpieces⟩ := parse_eq_ok_iff.mp hparse
        refine ⟨ts, scan_iff_takes.mp hscan, hdepth, (Except.ok.inj h).symm.trans ?_⟩
        rw [Pattern.source, hpieces, List.flatMap_map]
    · rintro ⟨ts, htakes, hdepth, rfl⟩
      have hparse : parse pattern = .ok ⟨ts.map PatternToken.piece⟩ :=
        parse_eq_ok_iff.mpr ⟨ts, scan_iff_takes.mpr htakes, hdepth, rfl⟩
      rw [hparse, Except.map, Pattern.source, List.flatMap_map]
  · rw [parse_eq_error_iff, parseFrom_eq_error_iff]
    simp only [Nat.zero_add]

end Pattern

end FeatureDocs
