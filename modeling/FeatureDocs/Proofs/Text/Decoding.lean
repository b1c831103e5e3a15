import FeatureDocs.Text.Utf8
import Mathlib.Tactic.IntervalCases

/-!
# Reading UTF-8

Reading a character undoes writing one, and nothing else: of all sequences of bytes, only the
encoding of a text is decoded, and it is decoded to that text. Each number of bytes has a first byte
of its own, and the range of the second byte keeps out the values that need fewer bytes or belong to
no character.

Lossy decoding shows a character other than the replacement character only for its own bytes.

## Main results

* `readChar_eq_some_iff`: what is read as a character
* `decode?_eq_some_iff`, `decodeLossy_encode`: what is decoded
* `eq_encode_of_decodeLossy`, `infix_of_mem_decodeLossy`: what lossy decoding shows
-/

namespace FeatureDocs.Utf8

/-! ## Numbers and bytes -/

theorem ofNat_eq_byte {m : Nat} {b : UInt8} (h : m = b.toNat) : UInt8.ofNat m = b := by
  rw [h, UInt8.ofNat_toNat]

theorem valid_toNat (c : Char) : c.toNat < 0xD800 ∨ 0xDFFF < c.toNat ∧ c.toNat < 0x110000 := by
  have h := c.valid
  simp only [UInt32.isValidChar, Nat.isValidChar] at h
  exact h

theorem toNat_ofNat_of_valid {m : Nat} (h : m < 0xD800 ∨ 0xDFFF < m ∧ m < 0x110000) :
    (Char.ofNat m).toNat = m := by
  have hvalid : m.isValidChar := h
  rw [Char.ofNat, dif_pos hvalid]
  rfl

/-! ## Reading what was written -/

/-- A byte in the range adds its last six bits. -/
theorem readTail_cons {low high : UInt8} {k : Nat} (hk : k < 64) (hlow : low.toNat ≤ 0x80 + k)
    (hhigh : 0x80 + k ≤ high.toNat) (n count : Nat) (s : List UInt8) :
    readTail n (count + 1) low high (UInt8.ofNat (0x80 + k) :: s) =
      readTail (n * 64 + k) count 0x80 0xBF s := by
  have hbyte : (UInt8.ofNat (0x80 + k)).toNat = 0x80 + k :=
    UInt8.toNat_ofNat_of_lt' (Nat.lt_of_le_of_lt hhigh high.toNat_lt)
  have hrange : low ≤ UInt8.ofNat (0x80 + k) ∧ UInt8.ofNat (0x80 + k) ≤ high := by
    rw [UInt8.le_iff_toNat_le, UInt8.le_iff_toNat_le, hbyte]
    exact ⟨hlow, hhigh⟩
  have hbits : (0x80 + k) % 64 = k := by omega
  rw [readTail, if_pos hrange, hbyte, hbits]

/-- Any byte but the first and the second may have any last six bits. -/
theorem readTail_next {k : Nat} (hk : k < 64) (n count : Nat) (s : List UInt8) :
    readTail n (count + 1) 0x80 0xBF (UInt8.ofNat (0x80 + k) :: s) =
      readTail (n * 64 + k) count 0x80 0xBF s :=
  readTail_cons hk (Nat.le_add_right _ _) (by change _ ≤ 0xBF; omega) n count s

theorem readChar_one {m : Nat} (h : m < 0x80) (s : List UInt8) :
    readChar (UInt8.ofNat m) s = (some (Char.ofNat m), s) := by
  have hm : (UInt8.ofNat m).toNat = m := UInt8.toNat_ofNat_of_lt' (Nat.lt_trans h (by decide))
  have hlt : UInt8.ofNat m < 0x80 := by
    rw [UInt8.lt_iff_toNat_lt, hm]
    exact h
  rw [readChar, if_pos hlt, hm]

theorem readChar_two {k : Nat} (hlow : 2 ≤ k) (h : k < 32) (s : List UInt8) :
    readChar (UInt8.ofNat (0xC0 + k)) s = readTail k 1 0x80 0xBF s := by
  interval_cases k <;> rfl

theorem readChar_three {k : Nat} (h : k < 16) (s : List UInt8) :
    readChar (UInt8.ofNat (0xE0 + k)) s =
      readTail k 2 (if k = 0 then 0xA0 else 0x80) (if k = 13 then 0x9F else 0xBF) s := by
  interval_cases k <;> rfl

theorem readChar_four {k : Nat} (h : k < 5) (s : List UInt8) :
    readChar (UInt8.ofNat (0xF0 + k)) s =
      readTail k 3 (if k = 0 then 0x90 else 0x80) (if k = 4 then 0x8F else 0xBF) s := by
  interval_cases k <;> rfl

/-- A character is read back from its bytes, whatever follows. -/
theorem exists_readChar_encodeChar (c : Char) (s : List UInt8) :
    ∃ b t, encodeChar c = b :: t ∧ readChar b (t ++ s) = (some c, s) := by
  have hvalid := valid_toNat c
  have hback := Char.ofNat_toNat c
  unfold encodeChar
  generalize c.toNat = n at hvalid hback
  simp only [Nat.div_one]
  -- In each case the bits of all bytes make up the value again.
  split
  · rename_i hone
    exact ⟨_, _, rfl, by rw [readChar_one hone, hback]; rfl⟩
  split
  · have hbits : n / 64 * 64 + n % 64 = n := by omega
    refine ⟨_, _, rfl, ?_⟩
    rw [readChar_two (by omega) (by omega), List.singleton_append, readTail_next (by omega),
      readTail, hbits, hback]
  split
  · have hbits : (n / 4096 * 64 + n / 64 % 64) * 64 + n % 64 = n := by omega
    refine ⟨_, _, rfl, ?_⟩
    rw [readChar_three (by omega), List.cons_append, List.singleton_append,
      readTail_cons (by omega) (by split <;> simp; omega) (by split <;> simp <;> omega),
      readTail_next (by omega), readTail, hbits, hback]
  · have hbits : ((n / 262144 * 64 + n / 4096 % 64) * 64 + n / 64 % 64) * 64 + n % 64 = n := by
      omega
    refine ⟨_, _, rfl, ?_⟩
    rw [readChar_four (by omega), List.cons_append, List.cons_append, List.singleton_append,
      readTail_cons (by omega) (by split <;> simp; omega) (by split <;> simp <;> omega),
      readTail_next (by omega), readTail_next (by omega), readTail, hbits, hback]

/-! ## Only what was written is read -/

theorem readTail_zero {n : Nat} {low high : UInt8} {s t : List UInt8} {c : Char}
    (h : readTail n 0 low high s = (some c, t)) : c = Char.ofNat n ∧ s = t := by
  rw [readTail, Prod.mk.injEq, Option.some.injEq] at h
  exact ⟨h.1.symm, h.2⟩

/-- A character goes on with a byte in the range. -/
theorem readTail_succ {n count : Nat} {low high : UInt8} {s t : List UInt8} {c : Char}
    (h : readTail n (count + 1) low high s = (some c, t)) :
    ∃ b s', s = b :: s' ∧ low.toNat ≤ b.toNat ∧ b.toNat ≤ high.toNat ∧
      readTail (n * 64 + b.toNat % 64) count 0x80 0xBF s' = (some c, t) := by
  cases s with
  | nil => simp [readTail] at h
  | cons b s =>
    rw [readTail] at h
    split at h
    · rename_i hb
      rw [UInt8.le_iff_toNat_le, UInt8.le_iff_toNat_le] at hb
      exact ⟨b, s, rfl, hb.1, hb.2, h⟩
    · simp at h

theorem eq_append_of_two {k : Nat} {b : UInt8} (hb : b.toNat = 0xC0 + k) (hlow : 2 ≤ k)
    (hk : k < 32) {s t : List UInt8} {c : Char} (h : readTail k 1 0x80 0xBF s = (some c, t)) :
    b :: s = encodeChar c ++ t := by
  obtain ⟨x, s, rfl, hx, hx', h⟩ := readTail_succ h
  obtain ⟨rfl, rfl⟩ := readTail_zero h
  simp only [UInt8.reduceToNat] at hx hx'
  have hvalue := toNat_ofNat_of_valid (m := k * 64 + x.toNat % 64) (by omega)
  rw [encodeChar, hvalue, if_neg (by omega), if_pos (by omega)]
  dsimp only
  rw [ofNat_eq_byte (b := b) (by omega), ofNat_eq_byte (b := x) (by omega)]
  rfl

theorem eq_append_of_three {k : Nat} {b low high : UInt8} (hb : b.toNat = 0xE0 + k) (hk : k < 16)
    (hlow : 0x80 ≤ low.toNat) (hzero : k = 0 → 0xA0 ≤ low.toNat) (hhigh : high.toNat ≤ 0xBF)
    (hgap : k = 13 → high.toNat ≤ 0x9F) {s t : List UInt8} {c : Char}
    (h : readTail k 2 low high s = (some c, t)) : b :: s = encodeChar c ++ t := by
  obtain ⟨x, s, rfl, hx, hx', h⟩ := readTail_succ h
  obtain ⟨y, s, rfl, hy, hy', h⟩ := readTail_succ h
  obtain ⟨rfl, rfl⟩ := readTail_zero h
  simp only [UInt8.reduceToNat] at hy hy'
  have hvalue := toNat_ofNat_of_valid (m := (k * 64 + x.toNat % 64) * 64 + y.toNat % 64) (by omega)
  rw [encodeChar, hvalue, if_neg (by omega), if_neg (by omega), if_pos (by omega)]
  dsimp only
  rw [ofNat_eq_byte (b := b) (by omega), ofNat_eq_byte (b := x) (by omega),
    ofNat_eq_byte (b := y) (by omega)]
  rfl

theorem eq_append_of_four {k : Nat} {b low high : UInt8} (hb : b.toNat = 0xF0 + k) (hk : k < 5)
    (hlow : 0x80 ≤ low.toNat) (hzero : k = 0 → 0x90 ≤ low.toNat) (hhigh : high.toNat ≤ 0xBF)
    (hend : k = 4 → high.toNat ≤ 0x8F) {s t : List UInt8} {c : Char}
    (h : readTail k 3 low high s = (some c, t)) : b :: s = encodeChar c ++ t := by
  obtain ⟨x, s, rfl, hx, hx', h⟩ := readTail_succ h
  obtain ⟨y, s, rfl, hy, hy', h⟩ := readTail_succ h
  obtain ⟨z, s, rfl, hz, hz', h⟩ := readTail_succ h
  obtain ⟨rfl, rfl⟩ := readTail_zero h
  simp only [UInt8.reduceToNat] at hy hy' hz hz'
  have hvalue := toNat_ofNat_of_valid
    (m := ((k * 64 + x.toNat % 64) * 64 + y.toNat % 64) * 64 + z.toNat % 64) (by omega)
  rw [encodeChar, hvalue, if_neg (by omega), if_neg (by omega), if_neg (by omega)]
  dsimp only
  rw [ofNat_eq_byte (b := b) (by omega), ofNat_eq_byte (b := x) (by omega),
    ofNat_eq_byte (b := y) (by omega), ofNat_eq_byte (b := z) (by omega)]
  rfl

/-- What is read as a character are its bytes. -/
theorem eq_append_of_readChar {b : UInt8} {s t : List UInt8} {c : Char}
    (h : readChar b s = (some c, t)) : b :: s = encodeChar c ++ t := by
  unfold readChar at h
  simp only [UInt8.lt_iff_toNat_lt, ← UInt8.toNat_inj, UInt8.reduceToNat] at h
  split at h
  · rename_i hb
    obtain ⟨hc, rfl⟩ := Prod.mk.inj h
    obtain rfl := Option.some.inj hc
    rw [encodeChar, toNat_ofNat_of_valid (Or.inl (by omega)), if_pos hb, UInt8.ofNat_toNat]
    rfl
  -- The other first bytes, in ascending order.
  split at h
  · simp at h
  split at h
  · exact eq_append_of_two (by omega) (by omega) (by omega) h
  split at h
  · exact eq_append_of_three (by omega) (by omega) (by simp) (by simp) (by simp) (by simp) h
  split at h
  · exact eq_append_of_three (by omega) (by omega) (by simp) (by simp) (by simp) (by simp) h
  split at h
  · exact eq_append_of_three (by omega) (by omega) (by simp) (by omega) (by simp) (by omega) h
  split at h
  · exact eq_append_of_four (by omega) (by omega) (by simp) (by simp) (by simp) (by simp) h
  split at h
  · exact eq_append_of_four (by omega) (by omega) (by simp) (by omega) (by simp) (by omega) h
  split at h
  · exact eq_append_of_four (by omega) (by omega) (by simp) (by simp) (by simp) (by simp) h
  · simp at h

/-- **A character is read exactly from its bytes.** -/
theorem readChar_eq_some_iff {b : UInt8} {s t : List UInt8} {c : Char} :
    readChar b s = (some c, t) ↔ b :: s = encodeChar c ++ t := by
  refine ⟨eq_append_of_readChar, fun h => ?_⟩
  obtain ⟨b', s', hc, hread⟩ := exists_readChar_encodeChar c t
  rw [hc, List.cons_append] at h
  obtain ⟨rfl, rfl⟩ := List.cons.inj h
  exact hread

/-! ## Texts -/

theorem encode_append (s t : List Char) : encode (s ++ t) = encode s ++ encode t :=
  List.flatMap_append

theorem encode_cons (c : Char) (s : List Char) : encode (c :: s) = encodeChar c ++ encode s := rfl

/-- All characters are decoded exactly from the encoding of a text. -/
theorem decodeAll_eq_map_some_iff {bytes : List UInt8} {s : List Char} :
    decodeAll bytes = s.map some ↔ bytes = encode s := by
  constructor
  · intro h
    fun_induction decodeAll bytes generalizing s with
    | case1 =>
      obtain rfl : s = [] := List.map_eq_nil_iff.mp h.symm
      rfl
    | case2 b rest ih =>
      obtain ⟨c, s, rfl, hc, hs⟩ := List.map_eq_cons_iff.mp h.symm
      rw [encode_cons, ← ih hs.symm]
      exact readChar_eq_some_iff.mp (Prod.ext hc.symm rfl)
  · rintro rfl
    induction s with
    | nil => rw [encode, List.flatMap_nil, decodeAll, List.map_nil]
    | cons c s ih =>
      obtain ⟨b, t, hc, hread⟩ := exists_readChar_encodeChar c (encode s)
      rw [encode_cons, hc, List.cons_append, decodeAll, hread, ih, List.map_cons]

theorem mapM_id_eq_some_iff {α : Type} {l : List (Option α)} {s : List α} :
    l.mapM id = some s ↔ l = s.map some := by
  induction l generalizing s with
  | nil => cases s <;> simp
  | cons c l ih =>
    rw [List.mapM_cons]
    cases c with
    | none => cases s <;> simp
    | some c =>
      -- The first is there, so all depends on the others.
      have hcons : (id (some c) >>= fun c => l.mapM id >>= fun rest => pure (c :: rest)) = some s ↔
          ∃ rest, l.mapM id = some rest ∧ c :: rest = s := by
        cases l.mapM id <;> simp
      rw [hcons]
      simp only [ih]
      cases s with
      | nil => simp
      | cons d s => simp [and_comm, eq_comm]

/-- **The encoding of a text is decoded to it, and nothing else is decoded.** -/
theorem decode?_eq_some_iff {bytes : List UInt8} {s : List Char} :
    decode? bytes = some s ↔ bytes = encode s := by
  rw [decode?, mapM_id_eq_some_iff, decodeAll_eq_map_some_iff]

theorem decodeLossy_encode (s : List Char) : decodeLossy (encode s) = s := by
  rw [decodeLossy, decodeAll_eq_map_some_iff.mpr rfl, List.map_map]
  exact List.map_id s

/-! ## What is shown -/

/-- What is shown without the replacement character is a text. -/
theorem eq_encode_of_decodeLossy {bytes : List UInt8} {s : List Char} (h : decodeLossy bytes = s)
    (hs : '\ufffd' ∉ s) : bytes = encode s := by
  rw [← decodeAll_eq_map_some_iff, ← h, decodeLossy, List.map_map]
  rw [decodeLossy] at h
  refine (List.map_id _).symm.trans (List.map_congr_left fun c hc => ?_)
  -- Only a fault is shown by the replacement character.
  cases c with
  | none => exact absurd (h ▸ List.mem_map_of_mem hc) hs
  | some c => rfl

theorem suffix_readTail (n count : Nat) (low high : UInt8) (s : List UInt8) :
    (readTail n count low high s).2 <:+ s := by
  fun_induction readTail n count low high s with
  | case1 | case2 | case4 => exact List.suffix_rfl
  | case3 n count low high b s h ih => exact ih.trans (List.suffix_cons b s)

theorem suffix_readChar (b : UInt8) (s : List UInt8) : (readChar b s).2 <:+ s := by
  unfold readChar
  repeat' split
  all_goals first | exact suffix_readTail _ _ _ _ _ | exact List.suffix_rfl

/-- **A character is shown only for its own bytes**, unless it is the replacement character. -/
theorem infix_of_mem_decodeLossy {bytes : List UInt8} {c : Char} (h : c ∈ decodeLossy bytes)
    (hc : c ≠ '\ufffd') : encodeChar c <:+: bytes := by
  have hmem : some c ∈ decodeAll bytes := by
    obtain ⟨d, hd, rfl⟩ := List.mem_map.mp h
    cases d with
    | none => exact absurd rfl hc
    | some d => exact hd
  clear h
  fun_induction decodeAll bytes with
  | case1 => simp at hmem
  | case2 b s ih =>
    rcases List.mem_cons.mp hmem with hfirst | hrest
    · rw [readChar_eq_some_iff.mp (Prod.ext hfirst.symm rfl)]
      exact (List.prefix_append _ _).isInfix
    · exact (ih hrest).trans ((suffix_readChar b s).trans (List.suffix_cons b s)).isInfix

end FeatureDocs.Utf8
