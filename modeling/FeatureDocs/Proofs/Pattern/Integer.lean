import FeatureDocs.Proofs.Pattern.Captures

/-!
# Integers as values

A placeholder whose hint names a type of integers captures digits, behind a sign if the type has
signs. The digits are those of any script, and a number is read in ASCII digits only. So what is
captured can be read exactly if every digit of it is an ASCII digit, wherever the placeholder stands
and whatever is around it; a text whose digits are all ASCII digits makes no other captures.

## Main definitions

* `integerSigns?`: the hints for integers, with the signs of their types
* `IsInteger`: integers in digits of some kind
* `readInteger?`: the number that an integer in ASCII digits stands for

## Main results

* `Pattern.isInteger_of_fills`: the values of placeholders for integers
* `Pattern.captured_integers`: which of them can be read
-/

namespace FeatureDocs

/-- The signs that an integer of the named type may have, if the hint names a type of integers. -/
def integerSigns? : Option String → Option (List Char)
  | none => none
  | some type =>
    if type ∈ ["u8", "u16", "u32", "u64", "u128", "usize"] then some []
    else if type ∈ ["i8", "i16", "i32", "i64", "i128", "isize"] then some ['+', '-']
    else none

/-- An integer: at least one digit, and at most one of the signs in front. -/
def IsInteger (isDigit : Char → Bool) (signs v : List Char) : Prop :=
  ∃ sign digits, v = sign ++ digits ∧ (sign = [] ∨ ∃ c ∈ signs, sign = [c]) ∧
    digits ≠ [] ∧ ∀ c ∈ digits, isDigit c = true

/-- Every digit in the text is an ASCII digit. -/
def OnlyAsciiDigits (s : List Char) : Prop :=
  ∀ c ∈ s, Text.isDecimalDigit c = true → Text.isAsciiDigit c = true

/-- The number that ASCII digits stand for. -/
def readDigits? (digits : List Char) : Option Nat :=
  if digits ≠ [] ∧ digits.all Text.isAsciiDigit then
    some (Nat.ofDigitChars 10 digits 0)
  else none

/-- The number that is read from a text, of whatever size: ASCII digits, behind a plus or, if the
type has it, a minus. -/
def readInteger? (signs : List Char) : List Char → Option Int
  | '+' :: digits => (readDigits? digits).map Int.ofNat
  | '-' :: digits => if '-' ∈ signs then (readDigits? digits).map fun n => -Int.ofNat n else none
  | digits => (readDigits? digits).map Int.ofNat

/-! ## Digits and signs -/

section Digits

variable {signs v sign digits : List Char}

theorem isDecimalDigit_of_isAsciiDigit {c : Char} (h : Text.isAsciiDigit c = true) :
    Text.isDecimalDigit c = true := by
  simp only [Text.isAsciiDigit, Bool.and_eq_true, decide_eq_true_eq, Char.le_def,
    UInt32.le_iff_toNat_le] at h
  refine List.any_eq_true.mpr ⟨0x30, by decide, ?_⟩
  simp only [Bool.and_eq_true, decide_eq_true_eq]
  change 0x30 ≤ c.toNat ∧ c.toNat ≤ 0x39 at h
  omega

/-- The signs are no digits. -/
theorem isDecimalDigit_sign {c : Char} (hc : c ∈ ['+', '-']) : Text.isDecimalDigit c = false := by
  rcases List.mem_pair.mp hc with rfl | rfl <;> decide

theorem subset_of_integerSigns? {hint : Option String} (h : integerSigns? hint = some signs) :
    signs ⊆ ['+', '-'] := by
  cases hint with
  | none => cases h
  | some type =>
    rw [integerSigns?] at h
    split at h
    · cases h
      exact List.nil_subset _
    · split at h <;> cases h
      exact List.Subset.refl _

theorem isSome_readDigits?_iff :
    (readDigits? digits).isSome = true ↔
      digits ≠ [] ∧ ∀ c ∈ digits, Text.isAsciiDigit c = true := by
  rw [readDigits?]
  split
  · rename_i h
    simpa using h
  · rename_i h
    simpa using h

/-- In an integer it is the digits behind the sign that are read. -/
theorem isSome_readInteger? (hsigns : signs ⊆ ['+', '-'])
    (hsign : sign = [] ∨ ∃ c ∈ signs, sign = [c])
    (hdigits : ∀ c ∈ digits, Text.isDecimalDigit c = true) :
    (readInteger? signs (sign ++ digits)).isSome = (readDigits? digits).isSome := by
  rcases hsign with rfl | ⟨c, hc, rfl⟩
  · -- No digit is taken for a sign.
    have hplain : ∀ c ∈ ['+', '-'], ∀ rest, digits ≠ c :: rest := by
      rintro c hc rest rfl
      exact absurd (hdigits c List.mem_cons_self) (by rw [isDecimalDigit_sign hc]; decide)
    rw [List.nil_append, readInteger?.eq_3 signs digits (hplain '+' (by decide))
      (hplain '-' (by decide)), Option.isSome_map]
  · rcases List.mem_pair.mp (hsigns hc) with rfl | rfl
    · exact Option.isSome_map
    · rw [List.singleton_append, readInteger?, if_pos hc, Option.isSome_map]

/-- The digits of an integer are all that counts. -/
theorem onlyAsciiDigits_append_iff (hsigns : signs ⊆ ['+', '-'])
    (hsign : sign = [] ∨ ∃ c ∈ signs, sign = [c])
    (hdigits : ∀ c ∈ digits, Text.isDecimalDigit c = true) :
    OnlyAsciiDigits (sign ++ digits) ↔ ∀ c ∈ digits, Text.isAsciiDigit c = true := by
  constructor
  · intro h c hc
    exact h c (List.mem_append_right _ hc) (hdigits c hc)
  · intro h c hc hdigit
    rcases List.mem_append.mp hc with hc | hc
    · rcases hsign with rfl | ⟨d, hd, rfl⟩
      · cases hc
      · obtain rfl := List.mem_singleton.mp hc
        rw [isDecimalDigit_sign (hsigns hd)] at hdigit
        cases hdigit
    · exact h c hc

/-- **An integer can be read exactly if its digits are ASCII digits**, which is to say that it is
one in ASCII digits. -/
theorem IsInteger.reads_iff (hsigns : signs ⊆ ['+', '-'])
    (h : IsInteger Text.isDecimalDigit signs v) :
    (IsInteger Text.isAsciiDigit signs v ↔ OnlyAsciiDigits v) ∧
      ((readInteger? signs v).isSome = true ↔ OnlyAsciiDigits v) := by
  constructor
  · constructor
    · rintro ⟨sign, digits, rfl, hsign, -, hdigits⟩
      exact (onlyAsciiDigits_append_iff hsigns hsign
        fun c hc => isDecimalDigit_of_isAsciiDigit (hdigits c hc)).mpr hdigits
    · obtain ⟨sign, digits, rfl, hsign, hne, hdigits⟩ := h
      intro honly
      exact ⟨sign, digits, rfl, hsign, hne,
        (onlyAsciiDigits_append_iff hsigns hsign hdigits).mp honly⟩
  · obtain ⟨sign, digits, rfl, hsign, hne, hdigits⟩ := h
    rw [isSome_readInteger? hsigns hsign hdigits, isSome_readDigits?_iff,
      onlyAsciiDigits_append_iff hsigns hsign hdigits]
    exact and_iff_right hne

end Digits

/-! ## The values of placeholders -/

/-- The words of a hint for integers are the integers that its type may have, in the digits of any
script. -/
theorem language_integer_iff {hint : Option String} {signs v : List Char}
    (h : integerSigns? hint = some signs) :
    (hintRegex hint).Language false v ↔ IsInteger Text.isDecimalDigit signs v := by
  cases hint with
  | none => cases h
  | some type =>
    rw [integerSigns?] at h
    rw [hintRegex, ValueKind.ofHint]
    split at h
    · rename_i htype
      cases h
      rw [if_pos htype]
      constructor
      · rintro ⟨hne, hdigits⟩
        exact ⟨[], v, rfl, Or.inl rfl, hne, hdigits⟩
      · rintro ⟨sign, digits, rfl, rfl | ⟨c, hc, rfl⟩, hne, hdigits⟩
        · exact ⟨hne, hdigits⟩
        · cases hc
    · rename_i hunsigned
      split at h
      · rename_i hsigned
        cases h
        rw [if_neg hunsigned, if_pos hsigned]
        have hsign : ∀ sign : List Char,
            (Regex.optional (.one (.among ['+', '-']))).Language false sign ↔
              (sign = [] ∨ ∃ c ∈ ['+', '-'], sign = [c]) := by
          intro sign
          simp only [Regex.Language, CharClass.holds, CharClass.accepts, List.contains_iff_mem,
            Bool.false_eq_true, if_false]
          exact or_comm
        constructor
        · rintro ⟨sign, digits, rfl, hs, hne, hdigits⟩
          exact ⟨sign, digits, rfl, (hsign sign).mp hs, hne, hdigits⟩
        · rintro ⟨sign, digits, rfl, hs, hne, hdigits⟩
          exact ⟨sign, digits, rfl, (hsign sign).mpr hs, hne, hdigits⟩
      · cases h

namespace Pattern

/-- The values stand in the text that they are put into. -/
theorem subset_interleave {ls vs : List (List Char)} {v : List Char} (hv : v ∈ vs) :
    v ⊆ interleave ls vs := by
  induction vs generalizing ls with
  | nil => cases hv
  | cons w vs ih =>
    cases ls with
    | nil => exact fun c hc => List.mem_flatten.mpr ⟨v, hv, hc⟩
    | cons l ls =>
      rw [interleave]
      refine List.subset_append_of_subset_right l ?_
      rcases List.mem_cons.mp hv with rfl | hv
      · exact List.subset_append_left v _
      · exact List.subset_append_of_subset_right w (ih hv)

variable {p : Pattern} {values : List String} {text : String}

/-- A placeholder for integers takes an integer, in the digits of any script. -/
theorem isInteger_of_fills (h : p.Fills values text) :
    List.Forall₂ (fun hint value => ∀ signs, integerSigns? hint = some signs →
      IsInteger Text.isDecimalDigit signs value.toList) p.hints values :=
  h.1.imp fun _ _ hlanguage _ hsigns => (language_integer_iff hsigns).mp hlanguage

/-- A placeholder for integers takes one that can be read, if no digit in the text is a foreign
one. -/
theorem reads_of_fills (h : p.Fills values text) (honly : OnlyAsciiDigits text.toList) :
    List.Forall₂ (fun hint value => ∀ signs, integerSigns? hint = some signs →
      IsInteger Text.isAsciiDigit signs value.toList ∧
        (readInteger? signs value.toList).isSome = true) p.hints values := by
  have hvalues : ∀ value ∈ values, OnlyAsciiDigits value.toList := by
    intro value hvalue c hc
    refine honly c ?_
    rw [h.2]
    exact subset_interleave (List.mem_map_of_mem hvalue) hc
  refine List.forall₂_iff_get.mpr ⟨h.length_eq.symm, fun i hi hi' signs hsigns => ?_⟩
  have hinteger := (isInteger_of_fills h).get hi hi' signs hsigns
  have hreads := hinteger.reads_iff (subset_of_integerSigns? hsigns)
  have honly' := hvalues _ (List.get_mem values ⟨i, hi'⟩)
  exact ⟨hreads.1.mpr honly', hreads.2.mpr honly'⟩

/-- **What is captured as an integer is one in the digits of any script.**

Take an accepted pattern. Its expression in writing captures what the pattern captures, and so does
a registry that holds a definition with it. The value of a placeholder whose hint names a type of
integers is at least one digit, with at most one of the signs of the type in front. It is an integer
in ASCII digits, and can be read as a number, exactly if it has no other digits; so all of them are
where no digit in the text is one of another script. -/
theorem captured_integers {pattern : String} (h : parse pattern = .ok p) :
    (∃ e, Expression.read p.source = some e ∧ ∀ text, e.captures? text = p.captures? text) ∧
      (∀ fits indexes keyword text c values,
        (Registry.empty.registerAll fits indexes).1.find keyword text = some (c, values) →
        c.definition.pattern = pattern → p.captures? text = some values) ∧
      ∀ text values, p.captures? text = some values →
        List.Forall₂ (fun hint value => ∀ signs, integerSigns? hint = some signs →
          IsInteger Text.isDecimalDigit signs value.toList ∧
            (IsInteger Text.isAsciiDigit signs value.toList ↔ OnlyAsciiDigits value.toList) ∧
            ((readInteger? signs value.toList).isSome = true ↔ OnlyAsciiDigits value.toList))
          p.hints values ∧
        (OnlyAsciiDigits text.toList →
          List.Forall₂ (fun hint value => ∀ signs, integerSigns? hint = some signs →
            IsInteger Text.isAsciiDigit signs value.toList ∧
              (readInteger? signs value.toList).isSome = true) p.hints values) := by
  refine ⟨⟨p.toExpression, p.read_source, p.captures?_toExpression⟩, ?_,
    fun text values hfound => ?_⟩
  · rintro fits indexes keyword text c values hfind rfl
    exact Registry.captures?_of_find_registerAll h hfind
  · have hfills := fills_of_captures? hfound
    refine ⟨(isInteger_of_fills hfills).imp fun hint value hinteger signs hsigns => ?_,
      reads_of_fills hfills⟩
    have hreads := (hinteger signs hsigns).reads_iff (subset_of_integerSigns? hsigns)
    exact ⟨hinteger signs hsigns, hreads.1, hreads.2⟩

/-- Two integers beside each other, behind a text that could take some of their digits. -/
theorem captured_integers_side_by_side :
    ∃ p, parse "{a}{n:i8}{m:u16}" = .ok p ∧
      p.captures? "x1-23" = some ["x1", "-2", "3"] ∧
      List.Forall₂ (fun hint value => ∀ signs, integerSigns? hint = some signs →
        IsInteger Text.isAsciiDigit signs value.toList ∧
          (readInteger? signs value.toList).isSome = true) p.hints ["x1", "-2", "3"] := by
  have hparse : parse "{a}{n:i8}{m:u16}" =
      .ok ⟨[.placeholder none, .placeholder (some "i8"), .placeholder (some "u16")]⟩ := by
    decide +kernel
  have hfound : (⟨[.placeholder none, .placeholder (some "i8"), .placeholder (some "u16")]⟩ :
      Pattern).captures? "x1-23" = some ["x1", "-2", "3"] := by
    decide +kernel
  have hdigits : ("x1-23".toList.all fun c => !Text.isDecimalDigit c || Text.isAsciiDigit c) =
      true := by
    decide +kernel
  have honly : OnlyAsciiDigits "x1-23".toList := fun c hc hdigit => by
    simpa [hdigit] using List.all_eq_true.mp hdigits c hc
  exact ⟨_, hparse, hfound, ((captured_integers hparse).2.2 _ _ hfound).2 honly⟩

/-- A digit of another script is captured as an integer, and cannot be read. -/
theorem foreign_digit_captured :
    ∃ p, parse "{n:u8}" = .ok p ∧ p.hints = [some "u8"] ∧ p.captures? "٣" = some ["٣"] ∧
      ¬ IsInteger Text.isAsciiDigit [] "٣".toList ∧ readInteger? [] "٣".toList = none := by
  have hparse : parse "{n:u8}" = .ok ⟨[.placeholder (some "u8")]⟩ := by decide +kernel
  refine ⟨_, hparse, rfl, by decide +kernel, ?_, by decide +kernel⟩
  rintro ⟨sign, digits, hv, hsign, -, hdigits⟩
  obtain rfl : sign = [] := hsign.resolve_right fun ⟨c, hc, _⟩ => nomatch hc
  rw [List.nil_append] at hv
  have hdigit : Text.isAsciiDigit '٣' = true := hdigits '٣' (by rw [← hv]; decide)
  exact absurd hdigit (by decide)

end Pattern

end FeatureDocs
