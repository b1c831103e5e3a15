import FeatureDocs.Pattern.Hint
import FeatureDocs.Regex.Match

/-!
# The matches of an expression are its words

`Regex.rests` lists what the matches at the front of a text leave over. Order apart, these are
exactly the rests behind the words of `Regex.Language`, so a claim on whether something matches is
a claim on words alone. No value of a placeholder is the empty word.

## Main results

* `Regex.mem_rests_iff`: a text is left over exactly behind a word
* `hintRegex_nonempty`: no value of a placeholder is empty
-/

namespace FeatureDocs

/-- What is left of a run of a class is what follows some characters of the class. -/
theorem CharClass.mem_runs_iff {folded : Bool} {k : CharClass} {s t : List Char} :
    t ∈ k.runs folded s ↔ ∃ w, s = w ++ t ∧ ∀ c ∈ w, k.holds folded c = true := by
  induction s with
  | nil =>
    simp only [CharClass.runs, List.mem_singleton, List.nil_eq, List.append_eq_nil_iff]
    constructor
    · rintro rfl
      exact ⟨[], ⟨rfl, rfl⟩, by simp⟩
    · rintro ⟨w, ⟨-, ht⟩, -⟩
      exact ht
  | cons c s ih =>
    simp only [CharClass.runs, List.mem_cons]
    constructor
    · rintro (rfl | h)
      · exact ⟨[], rfl, by simp⟩
      · split at h
        · rename_i hc
          obtain ⟨w, rfl, hw⟩ := ih.mp h
          exact ⟨c :: w, rfl, by simpa [hc] using hw⟩
        · simp at h
    · rintro ⟨w, hs, hw⟩
      cases w with
      | nil => exact Or.inl hs.symm
      | cons d w =>
        obtain ⟨rfl, rfl⟩ := List.cons.inj hs
        refine Or.inr ?_
        rw [if_pos (hw c (by simp))]
        exact ih.mpr ⟨w, rfl, fun d hd => hw d (List.mem_cons_of_mem _ hd)⟩

/-- The rests behind at least one character of a class, in whatever order. -/
theorem CharClass.mem_runs_tail_iff {folded : Bool} {k : CharClass} {c : Char} {s t : List Char} :
    t ∈ (if k.holds folded c then k.runs folded s else []) ↔
      ∃ w, c :: s = w ++ t ∧ w ≠ [] ∧ ∀ d ∈ w, k.holds folded d = true := by
  constructor
  · intro h
    split at h
    · rename_i hc
      obtain ⟨w, rfl, hw⟩ := mem_runs_iff.mp h
      exact ⟨c :: w, rfl, by simp, by simpa [hc] using hw⟩
    · simp at h
  · rintro ⟨w, hs, hne, hw⟩
    cases w with
    | nil => exact absurd rfl hne
    | cons d w =>
      obtain ⟨rfl, rfl⟩ := List.cons.inj hs
      rw [if_pos (hw c (by simp))]
      exact mem_runs_iff.mpr ⟨w, rfl, fun d hd => hw d (List.mem_cons_of_mem _ hd)⟩

namespace Regex

/-- **The matches of an expression at the front of a text are its words**: what a match leaves
over is what follows a word, and every word at the front is matched. -/
theorem mem_rests_iff {r : Regex} {folded : Bool} {s t : List Char} :
    t ∈ r.rests folded s ↔ ∃ w, s = w ++ t ∧ r.Language folded w := by
  induction r generalizing folded s t with
  | one k =>
    cases s with
    | nil => simp [rests, Language]
    | cons c s =>
      simp only [rests, Language]
      constructor
      · intro h
        split at h
        · rename_i hc
          obtain rfl := List.mem_singleton.mp h
          exact ⟨[c], rfl, c, hc, rfl⟩
        · simp at h
      · rintro ⟨w, hs, d, hd, rfl⟩
        obtain ⟨rfl, rfl⟩ := List.cons.inj hs
        simp [hd]
  | many k =>
    simp only [rests, List.mem_reverse, Language]
    exact CharClass.mem_runs_iff
  | many1 k =>
    cases s with
    | nil => simp [rests, Language]
    | cons c s =>
      -- The greedy and the reluctant form leave the same texts over, in opposite orders.
      have h : t ∈ (many1 k).rests folded (c :: s) ↔
          t ∈ (if k.holds folded c then k.runs folded s else []) := by
        simp only [rests]
        split <;> simp
      rw [h]
      exact CharClass.mem_runs_tail_iff
  | fewest1 k =>
    cases s with
    | nil => simp [rests, Language]
    | cons c s => exact CharClass.mem_runs_tail_iff
  | optional r ih =>
    simp only [rests, List.mem_append, List.mem_singleton, ih, Language]
    constructor
    · rintro (⟨w, rfl, hw⟩ | rfl)
      · exact ⟨w, rfl, Or.inl hw⟩
      · exact ⟨[], rfl, Or.inr rfl⟩
    · rintro ⟨w, rfl, hw | rfl⟩
      · exact Or.inl ⟨w, rfl, hw⟩
      · exact Or.inr rfl
  | seq r q ihr ihq =>
    simp only [rests, List.mem_flatMap, ihr, ihq, Language]
    constructor
    · rintro ⟨m, ⟨u, rfl, hu⟩, v, rfl, hv⟩
      exact ⟨u ++ v, (List.append_assoc ..).symm, u, v, rfl, hu, hv⟩
    · rintro ⟨w, rfl, u, v, rfl, hu, hv⟩
      exact ⟨v ++ t, ⟨u, List.append_assoc .., hu⟩, v, rfl, hv⟩
  | either r q ihr ihq =>
    simp only [rests, List.mem_append, ihr, ihq, Language]
    constructor
    · rintro (⟨w, rfl, hw⟩ | ⟨w, rfl, hw⟩)
      · exact ⟨w, rfl, Or.inl hw⟩
      · exact ⟨w, rfl, Or.inr hw⟩
    · rintro ⟨w, rfl, hw | hw⟩
      · exact Or.inl ⟨w, rfl, hw⟩
      · exact Or.inr ⟨w, rfl, hw⟩
  | group r ih => exact ih
  | ignoringCase r ih => exact ih

/-- What a match leaves over is an end of the text. -/
theorem suffix_of_mem_rests {r : Regex} {folded : Bool} {s t : List Char}
    (h : t ∈ r.rests folded s) : t <:+ s := by
  obtain ⟨w, rfl, -⟩ := mem_rests_iff.mp h
  exact List.suffix_append w t

/-- The empty text is a word of the expression. -/
def isNullable : Regex → Bool
  | one _ | many1 _ | fewest1 _ => false
  | many _ | optional _ => true
  | seq r s => r.isNullable && s.isNullable
  | either r s => r.isNullable || s.isNullable
  | group r | ignoringCase r => r.isNullable

theorem language_nil_iff {r : Regex} {folded : Bool} :
    r.Language folded [] ↔ r.isNullable = true := by
  induction r generalizing folded with
  | one k => simp [Language, isNullable]
  | many k => simp [Language, isNullable]
  | many1 k => simp [Language, isNullable]
  | fewest1 k => simp [Language, isNullable]
  | optional r ih => simp [Language, isNullable]
  | seq r q ihr ihq =>
    simp only [Language, isNullable, Bool.and_eq_true, List.nil_eq, List.append_eq_nil_iff]
    constructor
    · rintro ⟨u, v, ⟨rfl, rfl⟩, hu, hv⟩
      exact ⟨ihr.mp hu, ihq.mp hv⟩
    · rintro ⟨hr, hq⟩
      exact ⟨[], [], ⟨rfl, rfl⟩, ihr.mpr hr, ihq.mpr hq⟩
  | either r q ihr ihq => simp [Language, isNullable, ihr, ihq]
  | group r ih => exact ih
  | ignoringCase r ih => exact ih

end Regex

/-- No value of a placeholder is empty. -/
theorem hintRegex_nonempty {hint : Option String} {w : List Char}
    (h : (hintRegex hint).Language false w) : w ≠ [] := by
  rintro rfl
  -- The expressions of all kinds can be checked for the empty word.
  have hn : (ValueKind.ofHint hint).regex.isNullable = true := Regex.language_nil_iff.mp h
  revert hn
  cases ValueKind.ofHint hint <;> decide

end FeatureDocs
