import FeatureDocs.Proofs.Json.Token

/-!
# Reading JSON texts

A text of JSON is cut into tokens; blanks between them do not count. It denotes the value whose
tokens it is cut into, and so one value at most.

The reader refuses some texts that are JSON: its numbers are natural, and no escape stands for a
surrogate.

## Main definitions

* `Json.readString?`, `Json.readToken?`: readers of what is in front of a text
* `Json.lex?`: the tokens of a text
* `Json.Denotes`: the text denotes the value

## Main results

* `Json.Denotes.unique`: a text denotes one value at most
-/

namespace FeatureDocs

namespace Json

/-! ## Readers -/

/-- The character may stand between tokens. -/
def isSpace (c : Char) : Bool := c == ' ' || c == '\t' || c == '\n' || c == '\r'

/-- The token of a punctuation character. -/
def punctuation? : Char → Option JsonToken
  | '[' => some .openArray
  | ']' => some .closeArray
  | '\x7b' => some .openObject
  | '\x7d' => some .closeObject
  | ',' => some .comma
  | ':' => some .colon
  | _ => none

/-- A word, and the text after it. -/
def readWord? : List Char → Option (JsonToken × List Char)
  | 'n' :: 'u' :: 'l' :: 'l' :: s => some (.null, s)
  | 't' :: 'r' :: 'u' :: 'e' :: s => some (.bool true, s)
  | 'f' :: 'a' :: 'l' :: 's' :: 'e' :: s => some (.bool false, s)
  | _ => none

/-- A number that begins with the given digit, and the text after it. Only zero itself may begin
with a zero. -/
def readNumber? (c : Char) (s : List Char) : Option (JsonToken × List Char) :=
  if c = '0' ∧ s.takeWhile Char.isDigit ≠ [] then none
  else some (.number (Nat.ofDigitChars 10 (c :: s.takeWhile Char.isDigit) 0),
    s.dropWhile Char.isDigit)

/-- The value of a hexadecimal digit. -/
def hexValue? (c : Char) : Option Nat :=
  if '0' ≤ c ∧ c ≤ '9' then some (c.toNat - 0x30)
  else if 'a' ≤ c ∧ c ≤ 'f' then some (c.toNat - 0x57)
  else if 'A' ≤ c ∧ c ≤ 'F' then some (c.toNat - 0x37)
  else none

/-- The character of four hexadecimal digits. -/
def codedChar? (c₃ c₂ c₁ c₀ : Char) : Option Char := do
  let n := 0x1000 * (← hexValue? c₃) + 0x100 * (← hexValue? c₂) + 0x10 * (← hexValue? c₁) +
    (← hexValue? c₀)
  if n.isValidChar then some (Char.ofNat n) else none

/-- The character of an escape of one character. -/
def escapedChar? : Char → Option Char
  | '"' => some '"'
  | '\\' => some '\\'
  | '/' => some '/'
  | 'b' => some '\x08'
  | 'f' => some '\x0c'
  | 'n' => some '\n'
  | 'r' => some '\r'
  | 't' => some '\t'
  | _ => none

/-- One more character in front of those of a string, if there is one. -/
def withChar? (c? : Option Char) (after : Option (List Char × List Char)) :
    Option (List Char × List Char) := do
  let c ← c?
  let (cs, r) ← after
  return (c :: cs, r)

/-- The characters of a string up to its closing quote, and the text after that. -/
def readString? : List Char → Option (List Char × List Char)
  | [] => none
  | '"' :: s => some ([], s)
  | '\\' :: 'u' :: c₃ :: c₂ :: c₁ :: c₀ :: s => withChar? (codedChar? c₃ c₂ c₁ c₀) (readString? s)
  | '\\' :: c :: s => withChar? (escapedChar? c) (readString? s)
  | c :: s => withChar? (if c.toNat < 0x20 then none else some c) (readString? s)

/-- The token that begins with the given character, and the text after it. -/
def readToken? (c : Char) (s : List Char) : Option (JsonToken × List Char) :=
  if c = '"' then (readString? s).map fun (cs, r) => (.string (String.ofList cs), r)
  else if c.isDigit then readNumber? c s
  else
    match punctuation? c with
    | some t => some (t, s)
    | none => readWord? (c :: s)

/-! ## What readers leave -/

theorem exists_of_withChar? {c? : Option Char} {after : Option (List Char × List Char)}
    {cs r : List Char} (h : withChar? c? after = some (cs, r)) : ∃ cs', after = some (cs', r) := by
  obtain ⟨c, -, h⟩ := Option.bind_eq_some_iff.mp h
  obtain ⟨⟨cs', r'⟩, hafter, h⟩ := Option.bind_eq_some_iff.mp h
  cases h
  exact ⟨cs', hafter⟩

theorem length_of_readString? {s cs r : List Char} (h : readString? s = some (cs, r)) :
    r.length ≤ s.length := by
  fun_induction readString? s generalizing cs with
  | case1 => cases h
  | case2 s =>
    cases h
    exact Nat.le_succ _
  | case3 c₃ c₂ c₁ c₀ s ih =>
    obtain ⟨cs', hs⟩ := exists_of_withChar? h
    have := ih hs
    simp only [List.length_cons]
    omega
  | case4 c s _ ih =>
    obtain ⟨cs', hs⟩ := exists_of_withChar? h
    have := ih hs
    simp only [List.length_cons]
    omega
  | case5 c s _ _ _ ih =>
    obtain ⟨cs', hs⟩ := exists_of_withChar? h
    exact Nat.le_succ_of_le (ih hs)

theorem length_of_readWord? {s r : List Char} {t : JsonToken} (h : readWord? s = some (t, r)) :
    r.length < s.length := by
  unfold readWord? at h
  split at h <;> cases h <;> simp only [List.length_cons] <;> omega

/-- Every token takes its first character. -/
theorem length_of_readToken? {c : Char} {s r : List Char} {t : JsonToken}
    (h : readToken? c s = some (t, r)) : r.length ≤ s.length := by
  unfold readToken? at h
  split at h
  · obtain ⟨⟨cs, r'⟩, hstring, heq⟩ := Option.map_eq_some_iff.mp h
    cases heq
    exact length_of_readString? hstring
  · split at h
    · unfold readNumber? at h
      split at h <;> cases h
      exact (List.dropWhile_sublist _).length_le
    · split at h
      · cases h
        exact Nat.le_refl _
      · exact Nat.le_of_lt_succ (length_of_readWord? h)

/-! ## The tokens of a text -/

/-- The tokens of a text. -/
def lex? : List Char → Option (List JsonToken)
  | [] => some []
  | c :: s =>
    if isSpace c then lex? s
    else
      match h : readToken? c s with
      | none => none
      | some (t, r) =>
        have : r.length ≤ s.length := length_of_readToken? h
        (lex? r).map (t :: ·)
termination_by s => s.length

/-- The text denotes the value: it is cut into the tokens of the value. -/
def Denotes (text : String) (v : Json) : Prop := lex? text.toList = some v.tokens

/-- **A text denotes one value at most.** -/
theorem Denotes.unique {text : String} {v w : Json} (hv : Denotes text v) (hw : Denotes text w) :
    v = w := by
  have htokens : v.tokens ++ [] = w.tokens ++ [] :=
    congrArg (· ++ []) (Option.some.inj (hv.symm.trans hw))
  exact (tokens_append_inj v w [] [] htokens).1

theorem Denotes.denotes_iff {text : String} {v w : Json} (hv : Denotes text v) :
    Denotes text w ↔ w = v :=
  ⟨fun hw => hw.unique hv, fun heq => heq ▸ hv⟩

/-- The blanks and the escapes may be others than those that are printed. -/
example : Denotes "\x7b\"a\" : [0 ,\n12, \"\\u0041\\/\"]\x7d"
    (.object [("a", .array [.number 0, .number 12, .string "A/"])]) := by
  cbv

theorem lex?_space {c : Char} (hc : isSpace c = true) (s : List Char) :
    lex? (c :: s) = lex? s := by
  rw [lex?, if_pos hc]

theorem lex?_token {c : Char} {s r : List Char} {t : JsonToken} (hc : isSpace c = false)
    (h : readToken? c s = some (t, r)) : lex? (c :: s) = (lex? r).map (t :: ·) := by
  rw [lex?, if_neg (by rw [hc]; decide)]
  split
  · rename_i hnone
    cases hnone.symm.trans h
  · rename_i hsome
    cases hsome.symm.trans h
    rfl

end Json

end FeatureDocs
