import FeatureDocs.Proofs.Text.Blank
import FeatureDocs.Step.Keyword

/-!
# Step lines that start with a keyword

The first word of a step line, if a blank character stands behind it, decides on its keyword. The
text of the line starts with no blank character, so blank characters behind the keyword never count.

## Main results

* `StepLine.ofChars_word`: the first word decides
* `StepLine.ofString_keyword`, `StepLine.ofString_bullet`: a keyword or a bullet, and any text
* `StepLine.isBlank_head_text`: the text starts with no blank character
-/

namespace FeatureDocs

namespace StepLine

/-- The text of a step line starts with no blank character. -/
theorem isBlank_head_text {line : List Char} {c : Char} (h : (ofChars line).text.head? = some c) :
    Text.isBlank c = false := by
  unfold ofChars at h
  split at h
  · exact Text.isBlank_head_trimStart h
  · split at h
    · exact Text.isBlank_head_trimStart h
    · split at h
      · exact Text.isBlank_head_trimStart h
      · exact Text.isBlank_head_trimStart h

/-- The first word decides: it is a keyword, and the text is what follows it, or it belongs to the
text. -/
theorem ofChars_word {first : Char} {word : List Char}
    (hword : ∀ c ∈ first :: word, Text.isBlank c = false) (hfirst : first ≠ '*') {blank : Char}
    (hblank : Text.isBlank blank = true) (s : List Char) :
    ofChars (first :: word ++ blank :: s) =
      match Keyword.ofWord? (first :: word) with
      | some k => ⟨some k, Text.trimStart s⟩
      | none => ⟨none, first :: word ++ blank :: s⟩ := by
  -- The line is cut behind its first word, which ends where the first blank character stands.
  have htrim : Text.trimStart (first :: word ++ blank :: s) = first :: word ++ blank :: s :=
    Text.trimStart_cons_of_not_blank (hword first List.mem_cons_self) _
  have htake : (first :: word ++ blank :: s).takeWhile (fun c => !Text.isBlank c) =
      first :: word := by
    rw [List.takeWhile_append_of_pos fun c hc => by simp [hword c hc], List.takeWhile_cons]
    simp [hblank]
  have hdrop : (first :: word ++ blank :: s).dropWhile (fun c => !Text.isBlank c) = blank :: s := by
    rw [List.dropWhile_append_of_pos fun c hc => by simp [hword c hc], List.dropWhile_cons]
    simp [hblank]
  rw [ofChars, htrim]
  split
  · rename_i heq
    exact absurd (List.cons.inj heq).1 hfirst
  · rename_i line _
    cases hkeyword : Keyword.ofWord? (first :: word) <;> simp only [hdrop, htake, hkeyword]

/-- A keyword in front of any text. -/
theorem ofString_keyword (k : Keyword) (t : String) :
    ofString (k.name ++ " " ++ t) = ⟨some k, Text.trimStart t.toList⟩ := by
  have hchars : (k.name ++ " " ++ t).toList = k.name.toList ++ ' ' :: t.toList := by simp
  rw [ofString, hchars]
  have hword : ∀ c ∈ k.name.toList, Text.isBlank c = false := fun c hc => by
    have hall : (k.name.toList.all fun c => !Text.isBlank c) = true := by cases k <;> decide
    simpa using List.all_eq_true.mp hall c hc
  cases k <;> exact ofChars_word hword (by decide) (by decide) t.toList

/-- A bullet in front of any text. -/
theorem ofString_bullet (t : String) : ofString ("* " ++ t) = ⟨none, Text.trimStart t.toList⟩ := by
  have hchars : ("* " ++ t).toList = '*' :: ' ' :: t.toList := by simp
  rw [ofString, hchars, ofChars, Text.trimStart_cons_of_not_blank (by decide)]
  have htrim : Text.trimStart (' ' :: t.toList) = Text.trimStart t.toList :=
    Text.trimStart_cons_of_blank (by decide) _
  exact congrArg (StepLine.mk none) htrim

end StepLine

end FeatureDocs
