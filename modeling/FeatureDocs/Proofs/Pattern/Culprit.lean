import FeatureDocs.Proofs.Pattern.Reader

/-!
# What an error points at

An error of a pattern that has a position points at the brace which is to blame: a closing brace
that closes nothing, or the opening brace of a placeholder that does not complete. The text before
it has been read without complaint, but for stray braces that may still be open there. Such an error
does not go away when the pattern is continued, except where the end of the pattern itself was the
trouble, or where a second closing brace comes to stand behind the one to blame.

## Main definitions

* `PatternError.position?`: the position of an error
* `StopsAt`: the text before an offence, and the text from there on

## Main results

* `Pattern.parse_eq_error_iff_stopsAt`: the errors with a position
* `StopsAt.parse_front`: what is read of the text before
* `Pattern.parse_append_closing_iff`, `Pattern.parse_append_invalid`: an error with more text behind
  the pattern
* `Pattern.error_points_at_culprit`: what an error points at, and when it stays
-/

namespace FeatureDocs

open Pattern (isNameChar byteLength parse)

/-- The position that an error reports. -/
def PatternError.position? : PatternError → Option Nat
  | invalidPlaceholder _ position | unclosedPlaceholder _ position
  | unmatchedClosingBrace position => some position
  | unbalancedBraces | tooLarge => none

/-! ## Bytes -/

section Bytes

/-- The bytes of a text, counted by its characters. -/
theorem utf8ByteSize_ofList (s : List Char) : (String.ofList s).utf8ByteSize = byteLength s := by
  induction s with
  | nil => rfl
  | cons c s ih =>
    have hcons : String.ofList (c :: s) = String.singleton c ++ String.ofList s := by
      apply String.ext
      simp
    rw [hcons, String.utf8ByteSize_append, String.utf8ByteSize_singleton, ih,
      Pattern.byteLength_cons]

/-- A number of bytes cuts a text in one way only. -/
theorem eq_of_append_eq_append {s s' t t' : List Char} (h : s ++ t = s' ++ t')
    (hbytes : byteLength s = byteLength s') : s = s' := by
  induction s generalizing s' with
  | nil =>
    cases s' with
    | nil => rfl
    | cons c s' =>
      have hpos := Char.utf8Size_pos c
      rw [Pattern.byteLength_nil, Pattern.byteLength_cons] at hbytes
      omega
  | cons c s ih =>
    cases s' with
    | nil =>
      have hpos := Char.utf8Size_pos c
      rw [Pattern.byteLength_nil, Pattern.byteLength_cons] at hbytes
      omega
    | cons d s' =>
      obtain ⟨rfl, htail⟩ := List.cons.inj h
      rw [Pattern.byteLength_cons, Pattern.byteLength_cons] at hbytes
      rw [ih htail (by omega)]

end Bytes

/-! ## Placeholders that do not complete -/

section Placeholders

variable {position : Nat} {s : List Char} {e : PatternError}

/-- The error of a broken placeholder names the longest run of name characters behind its brace, and
its own position. -/
theorem BrokenPlaceholder.exists_name (h : BrokenPlaceholder position s e) :
    ∃ name : String, name.toList = s.takeWhile isNameChar ∧ IsPlaceholderName name.toList ∧
      (e = .invalidPlaceholder name position ∨ e = .unclosedPlaceholder name position) := by
  -- In each case the name is followed by the end or by a character that is none of a name.
  cases h with
  | @unclosedName name hname =>
    refine ⟨String.ofList s, ?_, ?_, Or.inr rfl⟩
    · rw [String.toList_ofList, List.takeWhile_eq_self_iff.mpr hname.2]
    · rwa [String.toList_ofList]
  | @invalidName name c r hname hc _ _ =>
    refine ⟨String.ofList name, ?_, ?_, Or.inl rfl⟩
    · rw [String.toList_ofList, (takeWhile_of_all hname.2 hc).1]
    · rwa [String.toList_ofList]
  | @unclosedHint name hint hname _ =>
    refine ⟨String.ofList name, ?_, ?_, Or.inr rfl⟩
    · rw [String.toList_ofList, (takeWhile_of_all hname.2 not_isNameChar_colon).1]
    · rwa [String.toList_ofList]
  | @invalidHint name hint c r hname _ _ _ =>
    refine ⟨String.ofList name, ?_, ?_, Or.inl rfl⟩
    · rw [String.toList_ofList, List.append_assoc, List.cons_append,
        (takeWhile_of_all hname.2 not_isNameChar_colon).1]
    · rwa [String.toList_ofList]

/-- A placeholder that is refused because of a character stays refused, as that character stays. -/
theorem BrokenPlaceholder.append {name : String} {position' : Nat}
    (h : BrokenPlaceholder position s (.invalidPlaceholder name position')) (t : List Char) :
    BrokenPlaceholder position (s ++ t) (.invalidPlaceholder name position') := by
  cases h with
  | @invalidName name c r hname hc hclosing hcolon =>
    rw [List.append_assoc, List.cons_append]
    exact .invalidName hname hc hclosing hcolon
  | @invalidHint name hint c r hname hhint hc hbad =>
    rw [List.append_assoc, List.cons_append]
    exact .invalidHint hname hhint hc hbad

end Placeholders

/-! ## Offences -/

/-- The scan of a text stops at an offence: the text before it has been scanned, and the rest of the
text starts with it. -/
def StopsAt (front rest : List Char) (e : PatternError) : Prop :=
  ∃ ts depth, Takes (front ++ rest) ts rest ∧ strayDepth 0 ts = some depth ∧
    Offence depth (byteLength front) rest e

variable {front rest : List Char} {e : PatternError}

theorem StopsAt.front_eq {ts : List PatternToken} (h : Takes (front ++ rest) ts rest) :
    ts.flatMap PatternToken.written = front :=
  (List.append_cancel_right h.eq_append).symm

theorem Offence.ne_nil {depth position : Nat} (h : Offence depth position rest e) : rest ≠ [] := by
  cases h <;> exact List.cons_ne_nil _ _

namespace Pattern

/-- **The errors other than that of braces left open** are those of the offence at which the scan
stops. -/
theorem parse_eq_error_iff_stopsAt {pattern : String} (he : e ≠ .unbalancedBraces) :
    parse pattern = .error e ↔
      ∃ front rest, pattern.toList = front ++ rest ∧ StopsAt front rest e := by
  rw [parse_eq_error_iff, parseFrom_eq_error_iff]
  constructor
  · rintro (⟨ts, rest, depth, htakes, hdepth, hoffence⟩ | ⟨rfl, -⟩)
    · rw [Nat.zero_add] at hoffence
      have hsplit := htakes.eq_append
      rw [hsplit] at htakes
      exact ⟨_, rest, hsplit, ts, depth, htakes, hdepth, hoffence⟩
    · exact absurd rfl he
  · rintro ⟨front, rest, hsplit, ts, depth, htakes, hdepth, hoffence⟩
    refine Or.inl ⟨ts, rest, depth, hsplit ▸ htakes, hdepth, ?_⟩
    rwa [Nat.zero_add, StopsAt.front_eq htakes]

end Pattern

/-- **The text before an offence** is accepted, or only its stray braces are left open; and if the
offence is a closing brace, then it is accepted. -/
theorem StopsAt.parse_front (h : StopsAt front rest e) :
    ((∃ p, parse (String.ofList front) = .ok p) ∨
        parse (String.ofList front) = .error .unbalancedBraces) ∧
      ∀ position, e = .unmatchedClosingBrace position →
        ∃ p, parse (String.ofList front) = .ok p := by
  obtain ⟨ts, depth, htakes, hdepth, hoffence⟩ := h
  have hfront : Takes front ts [] := StopsAt.front_eq htakes ▸ htakes.front
  have haccepted : depth = 0 → ∃ p, parse (String.ofList front) = .ok p := by
    intro hzero
    refine ⟨⟨ts.map PatternToken.piece⟩, Pattern.parse_eq_ok_iff.mpr ⟨ts, ?_, ?_, rfl⟩⟩
    · rw [String.toList_ofList]
      exact scan_iff_takes.mpr hfront
    · rw [hdepth, hzero]
  constructor
  · by_cases hzero : depth = 0
    · exact Or.inl (haccepted hzero)
    · obtain ⟨n, rfl⟩ := Nat.exists_eq_succ_of_ne_zero hzero
      refine Or.inr (Pattern.parse_eq_error_iff.mpr ((parseFrom_eq_error_iff 0).mpr ?_))
      rw [String.toList_ofList]
      exact Or.inr ⟨rfl, ts, n, hfront, hdepth⟩
  · rintro position rfl
    cases hoffence with
    | closing hzero _ => exact haccepted hzero
    | placeholder hbroken =>
      obtain ⟨name, -, -, he⟩ := hbroken.exists_name
      simp at he

/-- An offence stays with more text behind it, if what is refused there stays. -/
theorem StopsAt.append (h : StopsAt front rest e) {t : List Char}
    (ht : ∀ depth, Offence depth (byteLength front) rest e →
      Offence depth (byteLength front) (rest ++ t) e) :
    StopsAt front (rest ++ t) e := by
  obtain ⟨ts, depth, htakes, hdepth, hoffence⟩ := h
  refine ⟨ts, depth, ?_, hdepth, ht depth hoffence⟩
  rw [← List.append_assoc]
  exact htakes.append hoffence.ne_nil t

/-- A scan that stops at a closing brace has no closing brace behind that one. -/
theorem StopsAt.closing_cases {position : Nat}
    (h : StopsAt front rest (.unmatchedClosingBrace position)) :
    byteLength front = position ∧ ∃ after, rest = '}' :: after ∧ after.head? ≠ some '}' := by
  obtain ⟨ts, depth, -, -, hoffence⟩ := h
  cases hoffence with
  | closing _ hhead => exact ⟨rfl, _, rfl, hhead⟩
  | placeholder hbroken =>
    obtain ⟨name, -, -, he⟩ := hbroken.exists_name
    simp at he

/-- A scan that stops at an opening brace stops at a placeholder that does not complete. -/
theorem StopsAt.placeholder_cases (h : StopsAt front rest e)
    (he : ∀ position, e ≠ .unmatchedClosingBrace position) :
    ∃ after, rest = '{' :: after ∧ BrokenPlaceholder (byteLength front) after e := by
  obtain ⟨ts, depth, -, -, hoffence⟩ := h
  cases hoffence with
  | closing _ _ => exact absurd rfl (he _)
  | placeholder hbroken => exact ⟨_, rfl, hbroken⟩

namespace Pattern

variable {pattern : String}

/-- **A closing brace that closes nothing** is to blame whatever follows, unless another closing
brace does. -/
theorem parse_append_closing_iff {after : List Char} {position : Nat}
    (hsplit : pattern.toList = front ++ '}' :: after)
    (h : StopsAt front ('}' :: after) (.unmatchedClosingBrace position)) (s : String) :
    parse (pattern ++ s) = .error (.unmatchedClosingBrace position) ↔
      ¬ (after = [] ∧ s.toList.head? = some '}') := by
  obtain ⟨rfl, -⟩ := h.closing_cases
  have hmore : (pattern ++ s).toList = front ++ '}' :: (after ++ s.toList) := by
    rw [String.toList_append, hsplit, List.append_assoc, List.cons_append]
  rw [parse_eq_error_iff_stopsAt (by simp)]
  constructor
  · rintro ⟨front', rest', hsplit', hstops⟩ ⟨rfl, hhead⟩
    -- The same position is the same place, and there the brace has another one behind it.
    obtain ⟨hbytes, after', rfl, hhead'⟩ := hstops.closing_cases
    rw [hmore] at hsplit'
    obtain rfl := eq_of_append_eq_append hsplit' hbytes.symm
    have hafter := List.append_cancel_left hsplit'
    rw [List.nil_append, List.cons.injEq] at hafter
    rw [← hafter.2] at hhead'
    exact hhead' hhead
  · intro hnot
    refine ⟨front, '}' :: (after ++ s.toList), hmore, h.append fun depth hoffence => ?_⟩
    obtain ⟨hzero, hhead⟩ : depth = 0 ∧ after.head? ≠ some '}' := by
      cases hoffence with
      | closing hzero hhead => exact ⟨hzero, hhead⟩
    have hhead' : (after ++ s.toList).head? ≠ some '}' := by
      by_cases hafter : after = []
      · rw [hafter, List.nil_append]
        exact fun hs => hnot ⟨hafter, hs⟩
      · rw [List.head?_append_of_ne_nil after hafter]
        exact hhead
    exact .closing hzero hhead'

/-- **A placeholder that cannot complete** is to blame whatever follows. -/
theorem parse_append_invalid {after : List Char} {name : String} {position : Nat}
    (hsplit : pattern.toList = front ++ '{' :: after)
    (h : StopsAt front ('{' :: after) (.invalidPlaceholder name position)) (s : String) :
    parse (pattern ++ s) = .error (.invalidPlaceholder name position) := by
  refine (parse_eq_error_iff_stopsAt (by simp)).mpr
    ⟨front, '{' :: (after ++ s.toList), ?_, h.append fun depth hoffence => ?_⟩
  · rw [String.toList_append, hsplit, List.append_assoc, List.cons_append]
  · cases hoffence with
    | placeholder hbroken => exact .placeholder (hbroken.append s.toList)

theorem eq_append_of_toList {c : Char} {after : List Char}
    (h : pattern.toList = front ++ c :: after) :
    pattern = String.ofList front ++ String.singleton c ++ String.ofList after := by
  apply String.ext
  simp [h]

/-- **Errors point at the culprit, and stay.**

An error that has a position points at a character of the pattern, counted in bytes. It is a closing
brace, and the text before it is accepted; this error stays whatever is put behind the pattern,
unless the brace is the last character and another closing brace comes to stand behind it. Or it is
the opening brace of a placeholder: the name is the longest run of letters, digits and underscores
behind it, which is not empty and does not start with a digit, and the text before it is accepted or
only leaves braces open. If the placeholder is invalid and not merely unclosed, that error stays
too. -/
theorem error_points_at_culprit {e : PatternError} {position : Nat}
    (h : parse pattern = .error e) (hposition : e.position? = some position) :
    ∃ before after : String, before.utf8ByteSize = position ∧
      ((e = .unmatchedClosingBrace position ∧ pattern = before ++ String.singleton '}' ++ after ∧
          (∃ p, parse before = .ok p) ∧
          ∀ s : String, parse (pattern ++ s) = .error e ↔
            ¬ (after = "" ∧ s.toList.head? = some '}')) ∨
        ∃ name : String,
          (e = .invalidPlaceholder name position ∨ e = .unclosedPlaceholder name position) ∧
          pattern = before ++ String.singleton '{' ++ after ∧
          name.toList = after.toList.takeWhile isNameChar ∧ IsPlaceholderName name.toList ∧
          ((∃ p, parse before = .ok p) ∨ parse before = .error .unbalancedBraces) ∧
          (e = .invalidPlaceholder name position → ∀ s, parse (pattern ++ s) = .error e)) := by
  have he : e ≠ .unbalancedBraces := by
    rintro rfl
    cases hposition
  obtain ⟨front, rest, hsplit, hstops⟩ := (parse_eq_error_iff_stopsAt he).mp h
  by_cases hclosing : ∃ position, e = .unmatchedClosingBrace position
  · obtain ⟨position', rfl⟩ := hclosing
    obtain rfl : position' = position := Option.some.inj hposition
    obtain ⟨hbytes, after, rfl, -⟩ := hstops.closing_cases
    refine ⟨String.ofList front, String.ofList after, ?_, Or.inl ⟨rfl, ?_, ?_, fun s => ?_⟩⟩
    · rw [utf8ByteSize_ofList, hbytes]
    · exact eq_append_of_toList hsplit
    · exact hstops.parse_front.2 _ rfl
    · rw [parse_append_closing_iff hsplit hstops s, String.ofList_eq_empty_iff]
  · obtain ⟨after, rfl, hbroken⟩ := hstops.placeholder_cases fun p hp => hclosing ⟨p, hp⟩
    obtain ⟨name, hname, hisName, hname'⟩ := hbroken.exists_name
    obtain rfl : byteLength front = position := by
      rcases hname' with rfl | rfl <;> exact Option.some.inj hposition
    refine ⟨String.ofList front, String.ofList after, utf8ByteSize_ofList front,
      Or.inr ⟨name, hname', eq_append_of_toList hsplit, ?_, hisName, hstops.parse_front.1, ?_⟩⟩
    · rw [String.toList_ofList]
      exact hname
    · rintro rfl s
      exact parse_append_invalid hsplit hstops s

/-- A placeholder with a blank in its name, behind characters of several bytes and inside a stray
brace. -/
theorem error_at_blank_in_name :
    parse "\\ü\x7b ß\x7ba b\x7d" = .error (.invalidPlaceholder "a" 7) ∧
      ∀ s, parse ("\\ü\x7b ß\x7ba b\x7d" ++ s) = .error (.invalidPlaceholder "a" 7) := by
  have h : parse "\\ü\x7b ß\x7ba b\x7d" = .error (.invalidPlaceholder "a" 7) := by
    decide +kernel
  obtain ⟨before, after, -, ⟨he, -⟩ | ⟨name, he, -, -, -, -, hstays⟩⟩ :=
    error_points_at_culprit h rfl
  · cases he
  · have hname : name = "a" := by
      rcases he with he | he
      · exact (PatternError.invalidPlaceholder.inj he).1.symm
      · cases he
    exact ⟨h, hstays (hname ▸ rfl)⟩

end Pattern

end FeatureDocs
