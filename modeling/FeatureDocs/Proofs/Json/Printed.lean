import FeatureDocs.Proofs.Association
import FeatureDocs.Proofs.Json.Text

/-!
# Printed JSON values

Both printed forms of a value are cut into the tokens of the value: the line breaks and the
indentation of the longer one stand between tokens only, an escape stands for the character that it
is written for, and a number is never followed by a digit. So the two texts denote the same value,
and no other.

## Main definitions

* `Json.LexedAs`: what a text is cut into, whatever is behind it

## Main results

* `Json.readString?_escaped`: strings are read back
* `Json.lexedAs_enclosed`: arrays and objects, with any blanks between their elements
* `Json.denotes_compact`, `Json.denotes_pretty`: both printed forms of a value denote it
-/

namespace FeatureDocs

namespace Json

/-- The text does not begin with a digit. -/
def NoDigitAhead (s : List Char) : Prop := ∀ c ∈ s.head?, c.isDigit = false

/-- The text is cut into the tokens, whatever is behind it but a digit. -/
def LexedAs (text : List Char) (ts : List JsonToken) : Prop :=
  ∀ rest, NoDigitAhead rest → lex? (text ++ rest) = (lex? rest).map (ts ++ ·)

variable {c : Char} {s s' blanks blanks' : List Char} {t t' : JsonToken} {ts ts' : List JsonToken}

/-! ## Texts behind one another -/

theorem noDigitAhead_cons (hc : c.isDigit = false) (s : List Char) : NoDigitAhead (c :: s) := by
  intro d hd
  obtain rfl : c = d := Option.some.inj hd
  exact hc

theorem NoDigitAhead.append (hs : NoDigitAhead s) (hs' : NoDigitAhead s') :
    NoDigitAhead (s ++ s') := by
  cases s with
  | nil => exact hs'
  | cons c s => exact hs

theorem isDigit_of_isSpace (hc : isSpace c = true) : c.isDigit = false := by
  simp only [isSpace, Bool.or_eq_true, beq_iff_eq] at hc
  rcases hc with ((rfl | rfl) | rfl) | rfl <;> decide

theorem noDigitAhead_of_blank (hblanks : blanks.all isSpace = true) : NoDigitAhead blanks := by
  intro c hc
  exact isDigit_of_isSpace (List.all_eq_true.mp hblanks c (List.mem_of_mem_head? hc))

theorem isDigit_of_punctuation (hc : punctuation? c = some t) : c.isDigit = false := by
  unfold punctuation? at hc
  split at hc <;> cases hc <;> decide

theorem lexedAs_nil : LexedAs [] [] := by
  intro rest _
  exact (Option.map_id_apply).symm

/-- What does not begin with a digit may stand behind anything. -/
theorem LexedAs.append (h : LexedAs s ts) (h' : LexedAs s' ts') (hahead : NoDigitAhead s') :
    LexedAs (s ++ s') (ts ++ ts') := by
  intro rest hrest
  rw [List.append_assoc, h _ (hahead.append hrest), h' rest hrest, Option.map_map]
  simp only [Function.comp_def, List.append_assoc]

/-- Punctuation may stand in front of anything. -/
theorem LexedAs.punctuation_cons (hc : punctuation? c = some t) (h : LexedAs s ts) :
    LexedAs (c :: s) (t :: ts) := by
  intro rest hrest
  have hread : isSpace c = false ∧ readToken? c (s ++ rest) = some (t, s ++ rest) := by
    unfold punctuation? at hc
    split at hc <;> cases hc <;> exact ⟨by decide, rfl⟩
  rw [List.cons_append, lex?_token hread.1 hread.2, h rest hrest, Option.map_map]
  rfl

/-- Blanks in front of a text change nothing. -/
theorem LexedAs.blanks_append (hblanks : blanks.all isSpace = true) (h : LexedAs s ts) :
    LexedAs (blanks ++ s) ts := by
  induction blanks with
  | nil => exact h
  | cons c blanks ih =>
    rw [List.all_cons, Bool.and_eq_true] at hblanks
    intro rest hrest
    rw [List.cons_append, List.cons_append, lex?_space hblanks.1]
    exact ih hblanks.2 rest hrest

/-! ## Brackets -/

section Enclosed

variable {texts : List (List Char)} {tss : List (List JsonToken)}

theorem noDigitAhead_separated_tail (texts : List (List Char)) :
    NoDigitAhead (texts.flatMap ([','] ++ ·)) := by
  cases texts with
  | nil => exact nofun
  | cons text texts => exact noDigitAhead_cons (by decide) _

theorem lexedAs_separated_tail (hblanks : blanks.all isSpace = true)
    (h : List.Forall₂ LexedAs texts tss) :
    LexedAs ((texts.map (blanks ++ ·)).flatMap ([','] ++ ·)) (tss.flatMap ([.comma] ++ ·)) := by
  induction h with
  | nil => exact lexedAs_nil
  | cons hfirst _ ih =>
    exact ((hfirst.blanks_append hblanks).punctuation_cons rfl).append ih
      (noDigitAhead_separated_tail _)

theorem lexedAs_separated (hblanks : blanks.all isSpace = true)
    (h : List.Forall₂ LexedAs texts tss) :
    LexedAs (List.intercalate [','] (texts.map (blanks ++ ·))) (List.intercalate [.comma] tss) := by
  cases h with
  | nil => exact lexedAs_nil
  | cons hfirst hothers =>
    rw [List.map_cons, intercalate_cons, intercalate_cons]
    exact (hfirst.blanks_append hblanks).append (lexedAs_separated_tail hblanks hothers)
      (noDigitAhead_separated_tail _)

/-- **Texts between brackets**, with the same blanks in front of each of them and any blanks in
front of the closing bracket. -/
theorem lexedAs_enclosed {opening closing : Char} (hopening : punctuation? opening = some t)
    (hclosing : punctuation? closing = some t') (hblanks : blanks.all isSpace = true)
    (hblanks' : blanks'.all isSpace = true) (h : List.Forall₂ LexedAs texts tss) :
    LexedAs (opening :: (List.intercalate [','] (texts.map (blanks ++ ·)) ++
        (blanks' ++ [closing])))
      (t :: (List.intercalate [.comma] tss ++ [t'])) := by
  have hend : LexedAs (blanks' ++ [closing]) [t'] :=
    (lexedAs_nil.punctuation_cons hclosing).blanks_append hblanks'
  have hahead : NoDigitAhead (blanks' ++ [closing]) :=
    (noDigitAhead_of_blank hblanks').append
      (noDigitAhead_cons (isDigit_of_punctuation hclosing) [])
  exact ((lexedAs_separated hblanks h).append hend hahead).punctuation_cons hopening

end Enclosed

/-! ## Words -/

theorem lexedAs_null : LexedAs "null".toList [.null] := by
  intro rest _
  exact lex?_token (by decide) rfl

theorem lexedAs_bool (b : Bool) : LexedAs (if b then "true" else "false").toList [.bool b] := by
  intro rest _
  cases b <;> exact lex?_token (by decide) rfl

/-! ## Numbers -/

/-- Only zero is written with a zero in front. -/
theorem toDigits_leading_zero {n : Nat} {digits : List Char}
    (h : Nat.toDigits 10 n = '0' :: digits) : digits = [] := by
  induction n using Nat.strongRecOn generalizing digits with
  | ind n ih =>
    rw [Nat.toDigits_eq_if (by decide)] at h
    split at h
    · exact (List.cons.inj h).2.symm
    · rename_i hlarge
      have hne : Nat.toDigits 10 (n / 10) ≠ [] := Nat.toDigits_ne_nil
      obtain ⟨c, front, hfront⟩ := List.exists_cons_of_ne_nil hne
      rw [hfront, List.cons_append] at h
      obtain ⟨rfl, -⟩ := List.cons.inj h
      -- What is in front of the last digit would be zero then.
      have hzero : n / 10 = 0 := by
        rw [← Nat.ofDigitChars_ten_toDigits (n := n / 10), hfront, ih (n / 10) (by omega) hfront]
        rfl
      omega

/-- A run of digits ends where no digit is ahead. -/
theorem takeWhile_isDigit_append {digits : List Char} (h : ∀ d ∈ digits, d.isDigit = true)
    (hs : NoDigitAhead s) :
    (digits ++ s).takeWhile Char.isDigit = digits ∧ (digits ++ s).dropWhile Char.isDigit = s := by
  rw [List.takeWhile_append_of_pos h, List.dropWhile_append_of_pos h]
  cases s with
  | nil => exact ⟨List.append_nil digits, rfl⟩
  | cons c s =>
    have hc : ¬ c.isDigit = true := by
      rw [hs c rfl]
      decide
    rw [List.takeWhile_cons_of_neg hc, List.dropWhile_cons_of_neg hc]
    exact ⟨List.append_nil digits, rfl⟩

theorem lexedAs_number (n : Nat) : LexedAs (toString n).toList [.number n] := by
  intro rest hrest
  have hne : Nat.toDigits 10 n ≠ [] := Nat.toDigits_ne_nil
  obtain ⟨c, digits, htext⟩ := List.exists_cons_of_ne_nil hne
  have hdigits : ∀ d ∈ c :: digits, d.isDigit = true := fun d hd =>
    Nat.isDigit_of_mem_toDigits (by decide) (by decide) (htext ▸ hd)
  obtain ⟨hc, hdigits⟩ := List.forall_mem_cons.mp hdigits
  obtain ⟨htake, hdrop⟩ := takeWhile_isDigit_append hdigits hrest
  have hspace : isSpace c = false := Bool.eq_false_iff.mpr fun hspace =>
    Bool.noConfusion (hc.symm.trans (isDigit_of_isSpace hspace))
  have hquote : c ≠ '"' := by
    rintro rfl
    exact absurd hc (by decide)
  have hzero : ¬ (c = '0' ∧ digits ≠ []) := by
    rintro ⟨rfl, hlonger⟩
    exact hlonger (toDigits_leading_zero htext)
  have hread : readToken? c (digits ++ rest) = some (.number n, rest) := by
    rw [readToken?, if_neg hquote, if_pos hc, readNumber?, htake, hdrop, if_neg hzero, ← htext,
      Nat.ofDigitChars_ten_toDigits]
  rw [Nat.toString_eq_ofList_toDigits, String.toList_ofList, htext, List.cons_append]
  exact lex?_token hspace hread

/-! ## Strings -/

/-- The digits of a control character are those of its code. -/
theorem codedChar?_hexDigit {n : Nat} (hn : n < 0x20) :
    codedChar? '0' '0' (hexDigit (n / 16)) (hexDigit (n % 16)) = some (Char.ofNat n) := by
  revert n
  decide

theorem readString?_plain (hquote : c ≠ '"') (hescape : c ≠ '\\') (hcontrol : ¬ c.toNat < 0x20)
    (s : List Char) : readString? (c :: s) = withChar? (some c) (readString? s) := by
  rw [readString?, if_neg hcontrol]
  · exact hquote
  · exact fun _ _ _ _ _ h _ => hescape h
  · exact fun _ _ h _ => hescape h

theorem readString?_escapeChar (c : Char) (s : List Char) :
    readString? (escapeChar c ++ s) = withChar? (some c) (readString? s) := by
  unfold escapeChar
  simp only [beq_iff_eq]
  split_ifs with hquote hescape h8 h9 hA hC hD hcontrol
  · subst hquote
    rfl
  · subst hescape
    rfl
  · obtain rfl : c = '\x08' := Char.toNat_inj.mp h8
    rfl
  · obtain rfl : c = '\t' := Char.toNat_inj.mp h9
    rfl
  · obtain rfl : c = '\n' := Char.toNat_inj.mp hA
    rfl
  · obtain rfl : c = '\x0c' := Char.toNat_inj.mp hC
    rfl
  · obtain rfl : c = '\r' := Char.toNat_inj.mp hD
    rfl
  · -- Any other control character is written as its code.
    have hcode := codedChar?_hexDigit hcontrol
    rw [Char.ofNat_toNat] at hcode
    exact congrArg (withChar? · (readString? s)) hcode
  · exact readString?_plain hquote hescape hcontrol s

/-- **A string is read back**, whatever is behind it. -/
theorem readString?_escaped (cs s : List Char) :
    readString? (cs.flatMap escapeChar ++ '"' :: s) = some (cs, s) := by
  induction cs with
  | nil => rfl
  | cons c cs ih =>
    rw [List.flatMap_cons, List.append_assoc, readString?_escapeChar, ih]
    rfl

theorem lexedAs_quoted (name : String) : LexedAs (quoted name).toList [.string name] := by
  intro rest _
  rw [quoted, String.toList_ofList, List.append_assoc, List.append_assoc, List.singleton_append,
    List.singleton_append]
  have hread : readToken? '"' (name.toList.flatMap escapeChar ++ '"' :: rest) =
      some (.string name, rest) := by
    rw [readToken?, if_pos rfl, readString?_escaped, Option.map_some]
    exact congrArg (fun text => some (JsonToken.string text, rest)) String.ofList_toList
  exact lex?_token (by decide) hread

/-! ## Values -/

theorem compactAll_eq_map (elements : List Json) : compactAll elements = elements.map compact :=
  eq_map_of_cons rfl (fun _ _ => rfl) elements

theorem compactMembers_eq_map (members : List (String × Json)) :
    compactMembers members = members.map compactMember :=
  eq_map_of_cons rfl (fun _ _ => rfl) members

theorem prettyAll_eq_map (depth : Nat) (elements : List Json) :
    prettyAll depth elements = elements.map (prettyAt depth) :=
  eq_map_of_cons rfl (fun _ _ => rfl) elements

theorem prettyMembers_eq_map (depth : Nat) (members : List (String × Json)) :
    prettyMembers depth members = members.map (prettyMember depth) :=
  eq_map_of_cons rfl (fun _ _ => rfl) members

/-- The text is one punctuation character. -/
def IsPunctuation (text : String) (t : JsonToken) : Prop :=
  ∃ c, text.toList = [c] ∧ punctuation? c = some t

section Brackets

variable {opening closing : String} {texts : List String} {tss : List (List JsonToken)}

/-- Texts between brackets, on one line. -/
theorem lexedAs_oneLine (hopening : IsPunctuation opening t) (hclosing : IsPunctuation closing t')
    (h : List.Forall₂ (fun text ts => LexedAs text.toList ts) texts tss) :
    LexedAs (opening ++ String.intercalate "," texts ++ closing).toList
      (t :: (List.intercalate [.comma] tss ++ [t'])) := by
  obtain ⟨o, ho, hot⟩ := hopening
  obtain ⟨c, hc, hct⟩ := hclosing
  have henclosed := lexedAs_enclosed hot hct (rfl : [].all isSpace = true)
    (rfl : [].all isSpace = true) (List.forall₂_map_left_iff.mpr h)
  rw [String.toList_append, String.toList_append, String.toList_intercalate, ho, hc]
  simpa [Function.comp_def] using henclosed

theorem all_isSpace_indentation (depth : Nat) : (indentation depth).toList.all isSpace = true := by
  rw [indentation, String.toList_append, List.all_append, Bool.and_eq_true, String.toList_join,
    List.all_flatMap, List.all_replicate]
  refine ⟨rfl, ?_⟩
  cases depth <;> rfl

/-- Texts between brackets, each on a line of its own. -/
theorem lexedAs_block (hopening : IsPunctuation opening t) (hclosing : IsPunctuation closing t')
    (depth : Nat) (h : List.Forall₂ (fun text ts => LexedAs text.toList ts) texts tss) :
    LexedAs (block opening closing depth texts).toList
      (t :: (List.intercalate [.comma] tss ++ [t'])) := by
  rw [block]
  split
  · -- What is empty takes no lines.
    rename_i hempty
    obtain rfl := List.isEmpty_iff.mp hempty
    have honeLine := lexedAs_oneLine hopening hclosing h
    rwa [String.intercalate_nil, String.append_empty] at honeLine
  · obtain ⟨o, ho, hot⟩ := hopening
    obtain ⟨c, hc, hct⟩ := hclosing
    have henclosed := lexedAs_enclosed hot hct (all_isSpace_indentation (depth + 1))
      (all_isSpace_indentation depth) (List.forall₂_map_left_iff.mpr h)
    simp only [String.toList_append, String.toList_intercalate, ho, hc]
    simpa [Function.comp_def] using henclosed

end Brackets

theorem lexedAs_member (name : String) {text : List Char} {v : Json}
    (hblanks : blanks.all isSpace = true) (h : LexedAs text v.tokens) :
    LexedAs ((quoted name).toList ++ ':' :: (blanks ++ text)) (tokensMember (name, v)) :=
  (lexedAs_quoted name).append ((h.blanks_append hblanks).punctuation_cons rfl)
    (noDigitAhead_cons (by decide) _)

theorem lexedAs_compact (v : Json) : LexedAs v.compact.toList v.tokens := by
  induction v using Json.induction with
  | null => exact lexedAs_null
  | bool b => exact lexedAs_bool b
  | number n => exact lexedAs_number n
  | string s => exact lexedAs_quoted s
  | array elements ih =>
    rw [compact, tokens, compactAll_eq_map, tokensAll_eq_map]
    exact lexedAs_oneLine ⟨'[', rfl, rfl⟩ ⟨']', rfl, rfl⟩ (forall₂_map_same ih)
  | object members ih =>
    rw [compact, tokens, compactMembers_eq_map, tokensMembers_eq_map]
    refine lexedAs_oneLine ⟨'\x7b', rfl, rfl⟩ ⟨'\x7d', rfl, rfl⟩ (forall₂_map_same ?_)
    rintro ⟨name, v⟩ hm
    have hmember := lexedAs_member name (rfl : [].all isSpace = true) (ih name v hm)
    rw [compactMember, String.toList_append, String.toList_append, List.append_assoc]
    exact hmember

theorem lexedAs_prettyAt (v : Json) (depth : Nat) : LexedAs (v.prettyAt depth).toList v.tokens := by
  induction v using Json.induction generalizing depth with
  | null => exact lexedAs_null
  | bool b => exact lexedAs_bool b
  | number n => exact lexedAs_number n
  | string s => exact lexedAs_quoted s
  | array elements ih =>
    rw [prettyAt, tokens, prettyAll_eq_map, tokensAll_eq_map]
    exact lexedAs_block ⟨'[', rfl, rfl⟩ ⟨']', rfl, rfl⟩ depth
      (forall₂_map_same fun v hv => ih v hv (depth + 1))
  | object members ih =>
    rw [prettyAt, tokens, prettyMembers_eq_map, tokensMembers_eq_map]
    refine lexedAs_block ⟨'\x7b', rfl, rfl⟩ ⟨'\x7d', rfl, rfl⟩ depth (forall₂_map_same ?_)
    rintro ⟨name, v⟩ hm
    have hmember := lexedAs_member name (rfl : [' '].all isSpace = true) (ih name v hm (depth + 1))
    rw [prettyMember, String.toList_append, String.toList_append, List.append_assoc]
    exact hmember

theorem denotes_of_lexedAs {text : String} {v : Json} (h : LexedAs text.toList v.tokens) :
    Denotes text v := by
  have hall := h [] nofun
  rw [List.append_nil] at hall
  rw [Denotes, hall, lex?, Option.map_some, List.append_nil]

/-- **A value on one line denotes the value.** -/
theorem denotes_compact (v : Json) : Denotes v.compact v := denotes_of_lexedAs v.lexedAs_compact

/-- **A value on several lines denotes the value.** -/
theorem denotes_pretty (v : Json) : Denotes v.pretty v := denotes_of_lexedAs (v.lexedAs_prettyAt 0)

end Json

end FeatureDocs
