import FeatureDocs.Pattern.Basic
import Mathlib.Data.List.TakeWhile

/-!
# Placeholders in writing

Behind its opening brace a placeholder is a name, then a closing brace, or a colon, a hint and a
closing brace. A text that starts with a name but does not go on like this is a broken placeholder,
which the reader refuses: either the text ends too early, or a character stands where it may not.

## Main definitions

* `IsPlaceholderName`, `IsHint`: the parts of a placeholder
* `BrokenPlaceholder`: the placeholders that do not complete, each with its error

## Main results

* `placeholder_cases`: a text that starts with a name is a placeholder or a broken one
* `readPlaceholder_name`, `readPlaceholder_hinted`, `readPlaceholder_of_broken`: what is read
-/

namespace FeatureDocs

open Pattern (isNameStart isNameChar isHintChar readPlaceholder)

/-- The name of a placeholder: letters, digits and `_`, with no digit in front. -/
def IsPlaceholderName (name : List Char) : Prop :=
  name.head?.any isNameStart = true ∧ ∀ c ∈ name, isNameChar c = true

/-- A hint: some characters, none of them blank or a brace. -/
def IsHint (hint : List Char) : Prop := hint ≠ [] ∧ ∀ c ∈ hint, isHintChar c = true

/-- The placeholders that do not complete, by the text behind the opening brace, each with its
error: the text ends within the name or within the hint; or something other than `:` and `}` follows
the name; or the hint is empty, or a blank or an opening brace follows it. -/
inductive BrokenPlaceholder (position : Nat) : List Char → PatternError → Prop where
  | unclosedName {name} : IsPlaceholderName name →
      BrokenPlaceholder position name (.unclosedPlaceholder (String.ofList name) position)
  | invalidName {name c s} : IsPlaceholderName name → isNameChar c = false → c ≠ '}' → c ≠ ':' →
      BrokenPlaceholder position (name ++ c :: s)
        (.invalidPlaceholder (String.ofList name) position)
  | unclosedHint {name hint} : IsPlaceholderName name → (∀ c ∈ hint, isHintChar c = true) →
      BrokenPlaceholder position (name ++ ':' :: hint)
        (.unclosedPlaceholder (String.ofList name) position)
  | invalidHint {name hint c s} : IsPlaceholderName name → (∀ c ∈ hint, isHintChar c = true) →
      isHintChar c = false → (c = '}' → hint = []) →
      BrokenPlaceholder position (name ++ ':' :: hint ++ c :: s)
        (.invalidPlaceholder (String.ofList name) position)

/-! ## Names and hints -/

theorem not_isNameChar_closing : isNameChar '}' = false := by decide

theorem not_isNameChar_colon : isNameChar ':' = false := by decide

theorem not_isHintChar_closing : isHintChar '}' = false := by decide

theorem isNameChar_of_isNameStart (c : Char) (h : isNameStart c = true) : isNameChar c = true := by
  simp only [isNameStart, isNameChar, Bool.or_eq_true] at h ⊢
  exact h.imp_left Or.inl

theorem head?_any_append {p : Char → Bool} {s : List Char} (h : s.head?.any p = true)
    (t : List Char) : (s ++ t).head?.any p = true := by
  cases s with
  | nil => simp at h
  | cons c s => simpa using h

theorem takeWhile_of_all {p : Char → Bool} {s r : List Char} {c : Char}
    (hs : ∀ d ∈ s, p d = true) (hc : p c = false) :
    (s ++ c :: r).takeWhile p = s ∧ (s ++ c :: r).dropWhile p = c :: r := by
  constructor
  · rw [List.takeWhile_append_of_pos hs]
    simp [hc]
  · rw [List.dropWhile_append_of_pos hs]
    simp [hc]

/-- A text is a run of characters of a kind, and then its end or another character. -/
theorem exists_run (p : Char → Bool) (s : List Char) :
    ∃ run, (∀ c ∈ run, p c = true) ∧
      (s = run ∨ ∃ c rest, p c = false ∧ s = run ++ c :: rest) := by
  refine ⟨s.takeWhile p, fun c hc => List.mem_takeWhile_imp hc, ?_⟩
  have hsplit := List.takeWhile_append_dropWhile (p := p) (l := s)
  cases hdrop : s.dropWhile p with
  | nil =>
    rw [hdrop, List.append_nil] at hsplit
    exact Or.inl hsplit.symm
  | cons c rest =>
    rw [hdrop] at hsplit
    have hc := List.head?_dropWhile_not p s
    rw [hdrop] at hc
    exact Or.inr ⟨c, rest, by simpa using hc, hsplit.symm⟩

/-- **A text that starts with a name is a placeholder or a broken one**: what follows the name
decides, and behind a colon what follows the hint. -/
theorem placeholder_cases {s : List Char} (hs : s.head?.any isNameStart = true) :
    (∃ name rest, IsPlaceholderName name ∧ s = name ++ '}' :: rest) ∨
      (∃ name hint rest, IsPlaceholderName name ∧ IsHint hint ∧
        s = name ++ ':' :: hint ++ '}' :: rest) ∨
      ∀ position, ∃ e, BrokenPlaceholder position s e := by
  obtain ⟨name, hall, hname⟩ := exists_run isNameChar s
  have hstart : name.head?.any isNameStart = true := by
    rcases hname with rfl | ⟨c, rest, hc, rfl⟩
    · exact hs
    · cases name with
      | nil =>
        -- What starts a name belongs to it, so the run of such characters is not empty.
        have hc' := isNameChar_of_isNameStart c (by simpa using hs)
        rw [hc] at hc'
        exact absurd hc' Bool.false_ne_true
      | cons d name => simpa using hs
  have hisName : IsPlaceholderName name := ⟨hstart, hall⟩
  -- The first character that is none of a name decides, and that behind the hint.
  rcases hname with rfl | ⟨c, rest, hc, rfl⟩
  · exact Or.inr (Or.inr fun position => ⟨_, .unclosedName hisName⟩)
  by_cases hclosing : c = '}'
  · subst hclosing
    exact Or.inl ⟨name, rest, hisName, rfl⟩
  by_cases hcolon : c = ':'
  · subst hcolon
    obtain ⟨hint, hhint, rfl | ⟨d, rest', hd, rfl⟩⟩ := exists_run isHintChar rest
    · exact Or.inr (Or.inr fun position => ⟨_, .unclosedHint hisName hhint⟩)
    · rw [← List.cons_append, ← List.append_assoc]
      by_cases hgood : d = '}' ∧ hint ≠ []
      · obtain ⟨rfl, hne⟩ := hgood
        exact Or.inr (Or.inl ⟨name, hint, rest', hisName, ⟨hne, hhint⟩, rfl⟩)
      · have hbad : d = '}' → hint = [] := fun heq => by simpa [heq] using hgood
        exact Or.inr (Or.inr fun position => ⟨_, .invalidHint hisName hhint hd hbad⟩)
  · exact Or.inr (Or.inr fun position => ⟨_, .invalidName hisName hc hclosing hcolon⟩)

theorem BrokenPlaceholder.head?_any {position : Nat} {s : List Char} {e : PatternError}
    (h : BrokenPlaceholder position s e) : s.head?.any isNameStart = true := by
  cases h with
  | unclosedName hname => exact hname.1
  | invalidName hname => exact head?_any_append hname.1 _
  | unclosedHint hname => exact head?_any_append hname.1 _
  | invalidHint hname => exact head?_any_append (head?_any_append hname.1 _) _

/-! ## Reading -/

theorem readPlaceholder_name {position : Nat} {name r : List Char}
    (hname : IsPlaceholderName name) :
    readPlaceholder position (name ++ '}' :: r) = .ok (none, r) := by
  obtain ⟨-, hdrop⟩ := takeWhile_of_all (r := r) hname.2 not_isNameChar_closing
  simp [readPlaceholder, hdrop]

theorem readPlaceholder_hinted {position : Nat} {name hint r : List Char}
    (hname : IsPlaceholderName name) (hhint : IsHint hint) :
    readPlaceholder position (name ++ ':' :: hint ++ '}' :: r) =
      .ok (some (String.ofList hint), r) := by
  obtain ⟨-, hdrop⟩ := takeWhile_of_all (r := hint ++ '}' :: r) hname.2 not_isNameChar_colon
  obtain ⟨htake', hdrop'⟩ := takeWhile_of_all (r := r) hhint.2 not_isHintChar_closing
  rw [readPlaceholder, List.append_assoc, List.cons_append]
  simp [hdrop, hdrop', htake', hhint.1]

/-- A broken placeholder is refused. -/
theorem readPlaceholder_of_broken {position : Nat} {s : List Char} {e : PatternError}
    (h : BrokenPlaceholder position s e) : readPlaceholder position s = .error e := by
  cases h with
  | unclosedName hname =>
    rw [readPlaceholder, List.dropWhile_eq_nil_iff.mpr hname.2,
      List.takeWhile_eq_self_iff.mpr hname.2]
  | @invalidName name c r hname hc hclosing hcolon =>
    obtain ⟨htake, hdrop⟩ := takeWhile_of_all (r := r) hname.2 hc
    simp [readPlaceholder, htake, hdrop, hclosing, hcolon]
  | @unclosedHint name hint hname hhint =>
    obtain ⟨htake, hdrop⟩ := takeWhile_of_all (r := hint) hname.2 not_isNameChar_colon
    have hend := List.dropWhile_eq_nil_iff.mpr hhint
    simp [readPlaceholder, htake, hdrop, hend]
  | @invalidHint name hint c r hname hhint hc hbad =>
    obtain ⟨htake, hdrop⟩ := takeWhile_of_all (r := hint ++ c :: r) hname.2 not_isNameChar_colon
    obtain ⟨htake', hdrop'⟩ := takeWhile_of_all (r := r) hhint hc
    rw [readPlaceholder, List.append_assoc, List.cons_append]
    simp only [htake, hdrop, htake', hdrop']
    simpa using hbad

end FeatureDocs
