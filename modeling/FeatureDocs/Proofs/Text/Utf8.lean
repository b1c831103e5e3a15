import FeatureDocs.Text.Utf8
import Mathlib.Data.List.Basic

/-!
# The order of UTF-8

Texts are ordered by their characters as their encodings are by their bytes. The leading byte of a
character grows with the number of bytes, and the bytes of characters of one length are the digits
of their values.

## Main results

* `encode_lt_encode`: a smaller text has the smaller encoding
-/

namespace FeatureDocs.Utf8

/-- A digit in front decides, unless it is the same on both sides. -/
theorem ofNat_cons_lt {a b : Nat} {x y : List UInt8} (hb : b < 256) (hab : a ≤ b)
    (h : a = b → x < y) : UInt8.ofNat a :: x < UInt8.ofNat b :: y := by
  rw [List.cons_lt_cons_iff]
  rcases Nat.lt_or_eq_of_le hab with hlt | heq
  · exact Or.inl ((UInt8.ofNat_lt_iff_lt (Nat.lt_trans hlt hb) hb).mpr hlt)
  · exact Or.inr ⟨congrArg _ heq, h heq⟩

theorem toNat_lt (c : Char) : c.toNat < 0x110000 := by
  have h := c.valid
  simp only [UInt32.isValidChar, Nat.isValidChar] at h
  change c.val.toNat < _
  omega

/-- The smaller of two characters has the smaller encoding, whatever follows. -/
theorem encodeChar_append_lt {c d : Char} (h : c < d) (x y : List UInt8) :
    encodeChar c ++ x < encodeChar d ++ y := by
  have hcd : c.toNat < d.toNat := h
  have hd := toNat_lt d
  unfold encodeChar
  generalize c.toNat = m at *
  generalize d.toNat = n at *
  simp only [Nat.div_one]
  -- The longer encoding has the greater leading byte; at equal lengths the digits decide.
  repeat' split
  all_goals first
    | omega
    | exact ofNat_cons_lt (by omega) (by omega) fun _ => by omega
    | exact ofNat_cons_lt (by omega) (by omega) fun _ =>
        ofNat_cons_lt (by omega) (by omega) fun _ => by omega
    | exact ofNat_cons_lt (by omega) (by omega) fun _ =>
        ofNat_cons_lt (by omega) (by omega) fun _ =>
          ofNat_cons_lt (by omega) (by omega) fun _ => by omega
    | exact ofNat_cons_lt (by omega) (by omega) fun _ =>
        ofNat_cons_lt (by omega) (by omega) fun _ =>
          ofNat_cons_lt (by omega) (by omega) fun _ =>
            ofNat_cons_lt (by omega) (by omega) fun _ => by omega

/-- **A smaller text has the smaller encoding.** -/
theorem encode_lt_encode {s t : List Char} (h : s < t) : encode s < encode t := by
  induction s generalizing t with
  | nil =>
    cases t with
    | nil => exact absurd h (List.lt_irrefl [])
    | cons d t =>
      -- No character has an empty encoding.
      have hne : encodeChar d ≠ [] := by
        unfold encodeChar
        dsimp only
        repeat' split
        all_goals exact List.cons_ne_nil _ _
      obtain ⟨b, s, hb⟩ := List.exists_cons_of_ne_nil hne
      rw [encode, encode, List.flatMap_cons, hb]
      exact List.nil_lt_cons b _
  | cons c s ih =>
    cases t with
    | nil => exact absurd h (List.not_lt_nil _)
    | cons d t =>
      rw [encode, encode, List.flatMap_cons, List.flatMap_cons]
      rcases List.cons_lt_cons_iff.mp h with hcd | ⟨rfl, hst⟩
      · exact encodeChar_append_lt hcd _ _
      · exact List.append_left_lt (ih hst)

end FeatureDocs.Utf8
