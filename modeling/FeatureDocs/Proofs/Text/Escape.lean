import FeatureDocs.Text.Escape
import Mathlib.Data.List.Basic

/-!
# Escaping and reading back

Replacing the markup characters one after another gives the same as replacing all of them in one
pass, because no character is replaced after a reference that holds it has been written: all
references hold the ampersand, and it is the first to be replaced. So no markup character is left
but the ampersands that begin references, and reading those back gives the text itself.

## Main definitions

* `references`: all markup characters replaced in one pass
* `dereference`: the references of a text read back in one pass

## Main results

* `foldl_replaceChar`: when replacements one after another are one pass
* `escapeMarkup_eq_references`: escaping is one pass
* `dereference_references`: reading back undoes it
* `exists_entity_of_ampersand`: every ampersand begins a reference
-/

namespace FeatureDocs.Text

/-! ## One pass -/

/-- The reference of a markup character; any other character stands for itself. -/
def reference : Char → List Char
  | '&' => ['&', 'a', 'm', 'p', ';']
  | '>' => ['&', 'g', 't', ';']
  | '<' => ['&', 'l', 't', ';']
  | '"' => ['&', 'q', 'u', 'o', 't', ';']
  | c => [c]

/-- The text with every character replaced by its reference, in one pass. -/
def references (s : List Char) : List Char := s.flatMap reference

@[simp] theorem references_nil : references [] = [] := rfl

@[simp] theorem references_cons (c : Char) (s : List Char) :
    references (c :: s) = reference c ++ references s := rfl

/-- **Replacements one after another are one pass** if no character is replaced after a text that
holds it has been put in. -/
theorem foldl_replaceChar {table : List (Char × List Char)}
    (h : table.Pairwise fun r later => later.1 ∉ r.2) (s : List Char) :
    table.foldl (fun s r => replaceChar r.1 r.2 s) s =
      s.flatMap fun c => (table.lookup c).getD [c] := by
  induction table generalizing s with
  | nil => exact (List.flatMap_singleton' s).symm
  | cons r table ih =>
    obtain ⟨hfirst, hlater⟩ := List.pairwise_cons.mp h
    -- What the first replacement puts in is left alone by all later ones.
    have hkept : (r.2.flatMap fun c => (table.lookup c).getD [c]) = r.2 := by
      have hnone : ∀ c ∈ r.2, (table.lookup c).getD [c] = [c] := fun c hc => by
        have hlookup : table.lookup c = none :=
          List.lookup_eq_none_iff.mpr fun later hmem => by
            rw [bne_iff_ne]
            rintro rfl
            exact hfirst later hmem hc
        rw [hlookup]
        rfl
      rw [List.flatMap_congr hnone, List.flatMap_singleton']
    rw [List.foldl_cons, ih hlater, replaceChar, List.flatMap_assoc]
    refine List.flatMap_congr fun c _ => ?_
    by_cases hc : c = r.1
    · rw [if_pos hc, hkept, List.lookup_cons, hc, beq_self_eq_true]
      rfl
    · rw [if_neg hc, List.flatMap_singleton, List.lookup_cons, beq_false_of_ne hc]

theorem lookup_markupReferences (c : Char) :
    (markupReferences.lookup c).getD [c] = reference c := by
  unfold reference
  split
  case h_5 hamp hgt hlt hquot =>
    have hnone : markupReferences.lookup c = none := by
      rw [List.lookup_eq_none_iff]
      simpa [markupReferences] using ⟨hamp, hgt, hlt, hquot⟩
    rw [hnone]
    rfl
  all_goals rfl

/-- **Escaping is one pass**, although the characters are replaced one after another. -/
theorem escapeMarkup_eq_references (s : List Char) : escapeMarkup s = references s := by
  rw [escapeMarkup, foldl_replaceChar (by decide)]
  exact List.flatMap_congr fun c _ => lookup_markupReferences c

/-! ## What is left -/

/-- A reference holds no markup character but the ampersand in front. -/
theorem reference_cases (c : Char) :
    (c ∉ ['&', '>', '<', '"'] ∧ reference c = [c]) ∨
      ∃ name, reference c = '&' :: name ∧ (∀ d ∈ name, d ∉ ['&', '>', '<', '"']) ∧
        reference c ∈ markupReferences.map Prod.snd := by
  unfold reference
  split
  case h_5 hamp hgt hlt hquot => exact Or.inl ⟨by simpa using ⟨hamp, hgt, hlt, hquot⟩, rfl⟩
  all_goals exact Or.inr ⟨_, rfl, by simp, by decide⟩

/-- No other markup character is left. -/
theorem not_mem_references {c : Char} (h : c ∈ ['>', '<', '"']) (s : List Char) :
    c ∉ references s := by
  have hmarkup : c ∈ ['&', '>', '<', '"'] := List.mem_cons_of_mem _ h
  have hamp : c ≠ '&' := by
    rintro rfl
    revert h
    decide
  intro hmem
  obtain ⟨d, -, hd⟩ := List.mem_flatMap.mp hmem
  rcases reference_cases d with ⟨hplain, hself⟩ | ⟨name, heq, hname, -⟩
  · rw [hself, List.mem_singleton] at hd
    exact hplain (hd ▸ hmarkup)
  · rw [heq, List.mem_cons] at hd
    exact hd.elim hamp fun hd => hname c hd hmarkup

/-- An ampersand within a reference is the first character of it. -/
theorem eq_nil_of_reference {c : Char} {before here : List Char}
    (h : reference c = before ++ '&' :: here) :
    before = [] ∧ reference c ∈ markupReferences.map Prod.snd := by
  rcases reference_cases c with ⟨hplain, hself⟩ | ⟨name, heq, hname, hentity⟩
  · -- The ampersand does not stand for itself.
    have hmem : '&' ∈ reference c := by rw [h]; simp
    rw [hself, List.mem_singleton] at hmem
    subst hmem
    exact absurd (by decide) hplain
  · refine ⟨?_, hentity⟩
    cases before with
    | nil => rfl
    | cons d before =>
      have hmem : '&' ∈ name := by
        rw [(List.cons.inj (heq.symm.trans h)).2]
        simp
      exact absurd (by decide) (hname _ hmem)

/-- Every ampersand begins a reference. -/
theorem exists_entity_of_ampersand {s before after : List Char}
    (h : references s = before ++ '&' :: after) :
    ∃ entity ∈ markupReferences.map Prod.snd, entity <+: '&' :: after := by
  induction s generalizing before with
  | nil => simp at h
  | cons c s ih =>
    -- The ampersand stands behind what the first character has become, or in it.
    rw [references_cons, List.append_eq_append_iff] at h
    rcases h with ⟨later, -, hrest⟩ | ⟨here, hreference, hafter⟩
    · exact ih hrest
    · cases here with
      | nil => exact @ih [] hafter.symm
      | cons d here =>
        obtain ⟨rfl, rfl⟩ := List.cons.inj hafter
        obtain ⟨rfl, hentity⟩ := eq_nil_of_reference hreference
        rw [List.nil_append] at hreference
        exact ⟨_, hentity, hreference ▸ List.prefix_append _ _⟩

/-! ## Reading back -/

/-- The text with its references read back, in one pass. -/
def dereference : List Char → List Char
  | '&' :: 'a' :: 'm' :: 'p' :: ';' :: s => '&' :: dereference s
  | '&' :: 'g' :: 't' :: ';' :: s => '>' :: dereference s
  | '&' :: 'l' :: 't' :: ';' :: s => '<' :: dereference s
  | '&' :: 'q' :: 'u' :: 'o' :: 't' :: ';' :: s => '"' :: dereference s
  | c :: s => c :: dereference s
  | [] => []

theorem dereference_cons {c : Char} (h : c ≠ '&') (s : List Char) :
    dereference (c :: s) = c :: dereference s := by
  rw [dereference]
  all_goals rintro _ rfl
  all_goals exact absurd rfl h

/-- The reference of a character is read back as that character, whatever follows. -/
theorem dereference_reference (c : Char) (s : List Char) :
    dereference (reference c ++ s) = c :: dereference s := by
  unfold reference
  split
  case h_5 hamp _ _ _ => exact dereference_cons hamp s
  all_goals rfl

/-- **Reading back undoes the pass.** -/
theorem dereference_references (s : List Char) : dereference (references s) = s := by
  induction s with
  | nil => rfl
  | cons c s ih => rw [references_cons, dereference_reference, ih]

end FeatureDocs.Text
