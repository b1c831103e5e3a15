import FeatureDocs.Text.Blank
import Mathlib.Data.List.TakeWhile

/-!
# Trimmed texts

Trimming takes the blank characters around a text away, and only those.

## Main definitions

* `IsTrimOf`: a text without the blank characters around it

## Main results

* `isTrimOf_trim`: what trimming gives
-/

namespace FeatureDocs.Text

/-! ## Blank characters -/

/-- The blank characters, by their numbers. -/
def blankPoints : List Nat :=
  [0x09, 0x0A, 0x0B, 0x0C, 0x0D, 0x20, 0x85, 0xA0, 0x1680, 0x2000, 0x2001, 0x2002, 0x2003, 0x2004,
    0x2005, 0x2006, 0x2007, 0x2008, 0x2009, 0x200A, 0x2028, 0x2029, 0x202F, 0x205F, 0x3000]

theorem mem_blankPoints {c : Char} (h : isBlank c = true) : c.toNat ∈ blankPoints := by
  have hval : ∀ n : UInt32, c.val = n ↔ c.toNat = n.toNat := fun n => by
    rw [← UInt32.toNat_inj]
    rfl
  have hnat : c.val.toNat = c.toNat := rfl
  simp only [isBlank, Bool.or_eq_true, Bool.and_eq_true, decide_eq_true_eq, beq_iff_eq, hval, hnat,
    UInt32.le_iff_toNat_le, UInt32.toNat_ofNat, Nat.reduceMod, Nat.reducePow] at h
  simp only [blankPoints, List.mem_cons, List.not_mem_nil, or_false]
  omega

/-- No capital letter of ASCII is blank. -/
theorem isBlank_of_capital {c : Char} (h : 'A' ≤ c ∧ c ≤ 'Z') : isBlank c = false := by
  have hfirst : 'A'.toNat ≤ c.toNat := h.1
  have hlast : c.toNat ≤ 'Z'.toNat := h.2
  by_contra hblank
  have hmem := mem_blankPoints (Bool.not_eq_false _ ▸ hblank)
  simp only [blankPoints, List.mem_cons, List.not_mem_nil, or_false] at hmem
  simp only [Char.reduceToNat] at hfirst hlast
  omega

/-! ## Blank characters in front -/

/-- Blank characters in front do not count. -/
theorem trimStart_append_of_blank {front : List Char} (h : allBlank front = true)
    (s : List Char) : trimStart (front ++ s) = trimStart s :=
  List.dropWhile_append_of_pos (List.all_eq_true.mp h)

theorem allBlank_append {s t : List Char} (hs : allBlank s = true) (ht : allBlank t = true) :
    allBlank (s ++ t) = true := by
  rw [allBlank, List.all_append]
  exact Bool.and_eq_true_iff.mpr ⟨hs, ht⟩

/-- No blank character is left in front. -/
theorem isBlank_head_trimStart {s : List Char} {c : Char} (h : (trimStart s).head? = some c) :
    isBlank c = false := by
  have hnot := List.head?_dropWhile_not isBlank s
  rw [trimStart] at h
  simpa [h] using hnot

theorem trimStart_eq_self {s : List Char} (h : ∀ c, s.head? = some c → isBlank c = false) :
    trimStart s = s := by
  cases s with
  | nil => rfl
  | cons c s => exact trimStart_cons_of_not_blank (h c rfl) s

/-! ## Blank characters at both ends -/

/-- The second text is what blank characters surround in the first, and it neither starts nor ends
with one. -/
structure IsTrimOf (s t : List Char) : Prop where
  around : ∃ front back, s = front ++ t ++ back ∧ allBlank front = true ∧ allBlank back = true
  head : ∀ c, t.head? = some c → isBlank c = false
  last : ∀ c, t.getLast? = some c → isBlank c = false

/-- Only blank characters are dropped behind a text, and none is left there. -/
theorem trimEnd_spec (s : List Char) :
    (∃ back, s = trimEnd s ++ back ∧ allBlank back = true) ∧
      ∀ c, (trimEnd s).getLast? = some c → isBlank c = false := by
  induction s with
  | nil => exact ⟨⟨[], rfl, rfl⟩, by simp⟩
  | cons c s ih =>
    obtain ⟨⟨back, hback, hblank⟩, hlast⟩ := ih
    rw [trimEnd]
    split
    · rename_i hnil
      rw [hnil, List.nil_append] at hback
      split
      · rename_i hc
        exact ⟨⟨c :: s, rfl, by rw [hback]; simpa [allBlank, hc] using hblank⟩, by simp⟩
      · rename_i hc
        refine ⟨⟨s, rfl, hback ▸ hblank⟩, fun d hd => ?_⟩
        obtain rfl := Option.some.inj hd
        exact Bool.not_eq_true _ ▸ hc
    · rename_i hne
      refine ⟨⟨back, by rw [List.cons_append, ← hback], hblank⟩, fun d hd => hlast d ?_⟩
      rwa [List.getLast?_cons_of_ne_nil hne] at hd

/-- Trimming takes the blank characters around a text away, and only those. -/
theorem isTrimOf_trim (s : List Char) : IsTrimOf s (trim s) := by
  obtain ⟨⟨back, hback, hblank⟩, hlast⟩ := trimEnd_spec (trimStart s)
  refine ⟨⟨s.takeWhile isBlank, back, ?_, ?_, hblank⟩, fun c hc => ?_, hlast⟩
  · rw [List.append_assoc, trim, ← hback, trimStart, List.takeWhile_append_dropWhile]
  · exact List.all_takeWhile
  · -- What is left starts as it did before the characters behind it were dropped.
    have hstart : (trimStart s).head? = some c := by
      rw [hback, List.head?_append, show (trimEnd (trimStart s)).head? = some c from hc]
      rfl
    exact isBlank_head_trimStart hstart

end FeatureDocs.Text
