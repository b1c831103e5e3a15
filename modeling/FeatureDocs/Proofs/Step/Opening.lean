import FeatureDocs.Document.OfFeature
import FeatureDocs.Proofs.Step.Line
import FeatureDocs.Step.Registry

/-!
# What stands in front of the text of a step line

A line that has a keyword, or a bullet, opens with it: blank characters may stand in front, and
those behind are no part of the text either. So the text does not depend on how many there are. The
step of a feature becomes a line of this kind, with its keyword and its text, whatever the text is.

## Main definitions

* `StepLine.Opening`: what a line with a keyword or a bullet opens with
* `Gherkin.Step.Introduces`: the keyword of a step of a feature

## Main results

* `StepLine.Opening.ofChars`: an opening decides on the keyword, and the text follows
* `StepLine.ofChars_cases`: what a line that is read consists of
* `StepLine.line_of_feature_read_back`: the line of a step of a feature, and what blank characters
  change in a line
-/

namespace FeatureDocs

/-! ## Words that spell a keyword -/

namespace Keyword

variable {k : Keyword} {word : List Char}

/-- No two keywords have a spelling in common. -/
theorem ofWord?_eq_some_iff :
    ofWord? word = some k ↔ Text.equalIgnoringAsciiCase k.name.toList word = true := by
  constructor
  · intro h
    rw [ofWord?] at h
    have hspelled := List.find?_some h
    exact hspelled
  · intro h
    have hword : word.map Text.asciiLower = k.name.toList.map Text.asciiLower :=
      (beq_iff_eq.mp h).symm
    simp only [ofWord?, Text.equalIgnoringAsciiCase, hword]
    cases k <;> decide

/-- A blank character is its own lower-case form. -/
theorem asciiLower_of_blank {c : Char} (h : Text.isBlank c = true) : Text.asciiLower c = c := by
  refine if_neg fun hcapital => ?_
  rw [Text.isBlank_of_capital hcapital] at h
  cases h

/-- A keyword is spelled without blank characters and without bullets. -/
theorem plain_of_spelled (h : Text.equalIgnoringAsciiCase k.name.toList word = true) :
    ∀ c ∈ word, Text.isBlank c = false ∧ c ≠ '*' := by
  have hword : k.name.toList.map Text.asciiLower = word.map Text.asciiLower := beq_iff_eq.mp h
  have hname : ∀ c ∈ k.name.toList.map Text.asciiLower, Text.isBlank c = false ∧ c ≠ '*' := by
    have hall : (k.name.toList.map Text.asciiLower).all
        (fun c => Text.isBlank c == false && c != '*') = true := by
      cases k <;> decide
    simpa only [List.all_eq_true, Bool.and_eq_true, beq_iff_eq, bne_iff_ne] using hall
  intro c hc
  have hlower := hname _ (hword ▸ List.mem_map_of_mem hc)
  constructor
  · -- A blank character would be its own lower-case form.
    by_contra hblank
    rw [asciiLower_of_blank (Bool.not_eq_false _ ▸ hblank)] at hlower
    exact hblank hlower.1
  · rintro rfl
    exact hlower.2 rfl

/-- A keyword is spelled with some character. -/
theorem ne_nil_of_spelled (h : Text.equalIgnoringAsciiCase k.name.toList word = true) :
    word ≠ [] := by
  rintro rfl
  revert h
  cases k <;> decide

end Keyword

namespace StepLine

/-! ## Openings -/

/-- What a line with a keyword, or with a bullet, opens with: the blank characters before and after
it are part of the opening. One of those must stand behind a keyword. -/
inductive Opening : Option Keyword → List Char → Prop where
  | keyword {k : Keyword} {front word gap : List Char} (hfront : Text.allBlank front = true)
      (hword : Text.equalIgnoringAsciiCase k.name.toList word = true) (hne : gap ≠ [])
      (hgap : Text.allBlank gap = true) : Opening (some k) (front ++ word ++ gap)
  | bullet {front gap : List Char} (hfront : Text.allBlank front = true)
      (hgap : Text.allBlank gap = true) : Opening none (front ++ '*' :: gap)

variable {k : Option Keyword} {opening : List Char}

/-- An opening goes on with blank characters. -/
theorem Opening.append_blank (h : Opening k opening) {gap : List Char}
    (hgap : Text.allBlank gap = true) : Opening k (opening ++ gap) := by
  cases h with
  | keyword hfront hword hne hown =>
    rw [List.append_assoc]
    exact .keyword hfront hword (List.append_ne_nil_of_left_ne_nil hne gap)
      (Text.allBlank_append hown hgap)
  | bullet hfront hown =>
    rw [List.append_assoc, List.cons_append]
    exact .bullet hfront (Text.allBlank_append hown hgap)

/-- Blank characters in front of a line do not count. -/
theorem ofChars_append_of_blank {front : List Char} (h : Text.allBlank front = true)
    (line : List Char) : ofChars (front ++ line) = ofChars line := by
  rw [ofChars, ofChars, Text.trimStart_append_of_blank h]

/-- **An opening decides on the keyword, and the text follows.** -/
theorem Opening.ofChars (h : Opening k opening) (s : List Char) :
    ofChars (opening ++ s) = ⟨k, Text.trimStart s⟩ := by
  cases h with
  | @keyword k front word gap hfront hword hne hgap =>
    obtain ⟨first, rest, rfl⟩ := List.exists_cons_of_ne_nil (Keyword.ne_nil_of_spelled hword)
    obtain ⟨blank, gap, rfl⟩ := List.exists_cons_of_ne_nil hne
    rw [Text.allBlank, List.all_cons, Bool.and_eq_true] at hgap
    have hplain := Keyword.plain_of_spelled hword
    have hline : front ++ (first :: rest) ++ blank :: gap ++ s =
        front ++ (first :: rest ++ blank :: (gap ++ s)) := by simp
    rw [hline, ofChars_append_of_blank hfront,
      ofChars_word (fun c hc => (hplain c hc).1) (hplain first List.mem_cons_self).2 hgap.1,
      Keyword.ofWord?_eq_some_iff.mpr hword]
    -- The blank characters behind the first are dropped with those of the text.
    exact congrArg (StepLine.mk (some k)) (Text.trimStart_append_of_blank hgap.2 s)
  | @bullet front gap hfront hgap =>
    have hline : front ++ '*' :: gap ++ s = front ++ '*' :: (gap ++ s) := by simp
    rw [hline, ofChars_append_of_blank hfront, StepLine.ofChars,
      Text.trimStart_cons_of_not_blank (by decide)]
    exact congrArg (StepLine.mk none) (Text.trimStart_append_of_blank hgap s)

/-! ## Every line -/

/-- The characters of a line before its text starts, and that text. -/
theorem eq_front_append_trimStart (s : List Char) :
    ∃ front, Text.allBlank front = true ∧ s = front ++ Text.trimStart s :=
  ⟨s.takeWhile Text.isBlank, List.all_takeWhile, List.takeWhile_append_dropWhile.symm⟩

/-- **What a line that is read consists of**: an opening and the text, or no keyword, and the text
is all but the blank characters in front. -/
theorem ofChars_cases (line : List Char) :
    (∃ opening, Opening (ofChars line).keyword opening ∧
        line = opening ++ (ofChars line).text) ∨
      ofChars line = ⟨none, Text.trimStart line⟩ := by
  obtain ⟨front, hfront, hline⟩ := eq_front_append_trimStart line
  rw [StepLine.ofChars]
  generalize Text.trimStart line = trimmed at hline
  subst hline
  split
  · rename_i rest
    obtain ⟨gap, hgap, hrest⟩ := eq_front_append_trimStart rest
    exact Or.inl ⟨_, .bullet hfront hgap, by rw [List.append_assoc, List.cons_append, ← hrest]⟩
  · split
    · exact Or.inr rfl
    · rename_i blank rest hdrop
      split
      · rename_i k hword
        obtain ⟨gap, hgap, hrest⟩ := eq_front_append_trimStart rest
        -- The word ends where a blank character stands.
        have hblank : Text.isBlank blank = true := by
          have hnot := List.head?_dropWhile_not (fun c => !Text.isBlank c) trimmed
          simpa [hdrop] using hnot
        have hall : Text.allBlank (blank :: gap) = true :=
          Text.allBlank_append (s := [blank]) (by simpa [Text.allBlank] using hblank) hgap
        refine Or.inl ⟨_, .keyword hfront (Keyword.ofWord?_eq_some_iff.mp hword)
          (List.cons_ne_nil blank gap) hall, ?_⟩
        have hsplit := List.takeWhile_append_dropWhile
          (p := fun c => !Text.isBlank c) (l := trimmed)
        rw [hdrop] at hsplit
        simp only [List.append_assoc, List.cons_append, ← hrest, hsplit]
      · exact Or.inr rfl

/-- The text of a step line is the end of the line. -/
theorem text_suffix (line : List Char) : (ofChars line).text <:+ line := by
  rcases ofChars_cases line with ⟨opening, -, hline⟩ | hline
  · exact ⟨opening, hline.symm⟩
  · rw [hline]
    exact List.dropWhile_suffix _

end StepLine

/-! ## Steps of features -/

/-- A step of a feature has a keyword, spelled in any case, or a bullet, with or without blank
characters behind it. -/
def Gherkin.Step.Introduces (step : Gherkin.Step) : Option Keyword → Prop
  | some k =>
    Text.equalIgnoringAsciiCase k.name.toList (Text.trimEnd step.keyword.toList) = true
  | none => Text.trimEnd step.keyword.toList = ['*']

namespace StepLine

/-- The line of a step opens with the keyword of the step and one blank character. -/
theorem opening_of_introduces {step : Gherkin.Step} {k : Option Keyword}
    (h : step.Introduces k) : Opening k (Text.trimEnd step.keyword.toList ++ [' ']) := by
  cases k with
  | some k =>
    have hopening : Opening (some k) ([] ++ Text.trimEnd step.keyword.toList ++ [' ']) :=
      .keyword rfl h (List.cons_ne_nil _ _) (by decide)
    exact hopening
  | none =>
    have hopening : Opening none ([] ++ '*' :: [' ']) := .bullet rfl (by decide)
    rw [show Text.trimEnd step.keyword.toList = ['*'] from h]
    exact hopening

theorem toList_line_ofFeature (step : Gherkin.Step) :
    (Step.ofFeature step).line.toList =
      Text.trimEnd step.keyword.toList ++ [' '] ++ step.text.toList := by
  simp [Step.line, Step.ofFeature, String.trimBlankEnd]

/-- **The line of a step of a feature is read back as the keyword and the text of the step.**

A step with one of the keywords, in any case, or with a bullet, becomes a line with that keyword, or
none, and with the text of the step but for the blank characters in front of it; so a registry finds
for the line what it finds for this keyword and this text. Of every line, the text is the end of it
and does not start with a blank character, and a keyword is read from an opening in front of the
text only. More blank characters, in front of a line or behind its opening, change nothing. -/
theorem line_of_feature_read_back :
    (∀ (step : Gherkin.Step) (k : Option Keyword), step.Introduces k →
      let line := (Step.ofFeature step).line
      let text := Text.trimStart step.text.toList
      ofString line = ⟨k, text⟩ ∧
        ∀ r : Registry, r.lookup line =
          match r.find k (String.ofList text) with
          | none => .unmatched
          | some (d, captures) => .matched (d.matched captures)) ∧
      ∀ line : List Char,
        (ofChars line).text <:+ line ∧
          (∀ c, (ofChars line).text.head? = some c → Text.isBlank c = false) ∧
          (∀ k, (ofChars line).keyword = some k →
            ∃ opening, Opening (some k) opening ∧ line = opening ++ (ofChars line).text) ∧
          (∀ gap, Text.allBlank gap = true → ofChars (gap ++ line) = ofChars line) ∧
          ∀ k opening rest, Opening k opening → line = opening ++ rest →
            (ofChars line).keyword = k ∧
              ∀ gap, Text.allBlank gap = true →
                ofChars (opening ++ gap ++ rest) = ofChars line := by
  refine ⟨fun step k h => ?_, fun line => ⟨text_suffix line, fun c => isBlank_head_text,
    fun k hk => ?_, fun gap hgap => ofChars_append_of_blank hgap line, ?_⟩⟩
  · have hread : ofString (Step.ofFeature step).line =
        ⟨k, Text.trimStart step.text.toList⟩ := by
      rw [ofString, toList_line_ofFeature]
      exact (opening_of_introduces h).ofChars _
    refine ⟨hread, fun r => ?_⟩
    cases hfind : r.find k (String.ofList (Text.trimStart step.text.toList)) <;>
      simp only [Registry.lookup, hread, hfind]
  · -- Without an opening no keyword is read.
    rcases ofChars_cases line with ⟨opening, hopening, hline⟩ | hnone
    · exact ⟨opening, hk ▸ hopening, hline⟩
    · rw [hnone] at hk
      cases hk
  · rintro k opening rest hopening rfl
    rw [hopening.ofChars]
    refine ⟨rfl, fun gap hgap => ?_⟩
    exact (hopening.append_blank hgap).ofChars rest

example : StepLine.ofString (Step.ofFeature ⟨"wHEN\u00a0 ", " \tGiven *", none, none⟩).line =
    ⟨some .when, "Given *".toList⟩ := by decide

end StepLine

end FeatureDocs
