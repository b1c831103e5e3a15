/-!
# UTF-8

Texts as sequences of bytes. A malformed sequence of bytes is cut off at the first byte that
cannot go on with it, and counts as one fault; decoding refuses a text with a fault, and lossy
decoding shows the replacement character for each.

## Main definitions

* `encode`: the bytes of a text
* `decode?`, `decodeLossy`: the text of a sequence of bytes
-/

namespace FeatureDocs.Utf8

/-- The bytes of a character. -/
def encodeChar (c : Char) : List UInt8 :=
  let n := c.toNat
  let tail := fun (unit : Nat) => UInt8.ofNat (0x80 + n / unit % 64)
  if n < 0x80 then [UInt8.ofNat n]
  else if n < 0x800 then [UInt8.ofNat (0xC0 + n / 64), tail 1]
  else if n < 0x10000 then [UInt8.ofNat (0xE0 + n / 4096), tail 64, tail 1]
  else [UInt8.ofNat (0xF0 + n / 262144), tail 4096, tail 64, tail 1]

/-- The bytes of a text. -/
def encode (s : List Char) : List UInt8 := s.flatMap encodeChar

/-- Reads `count` more bytes of a character, the next of them between `low` and `high`; `n` is the
value of the bytes so far. The answer has no character if such a byte is missing. -/
def readTail (n : Nat) : Nat → UInt8 → UInt8 → List UInt8 → Option Char × List UInt8
  | 0, _, _, s => (some (Char.ofNat n), s)
  | _ + 1, _, _, [] => (none, [])
  | count + 1, low, high, b :: s =>
    if low ≤ b ∧ b ≤ high then readTail (n * 64 + b.toNat % 64) count 0x80 0xBF s
    else (none, b :: s)

/-- Reads the character that starts with byte `b`, and tells what follows it. -/
def readChar (b : UInt8) (s : List UInt8) : Option Char × List UInt8 :=
  if b < 0x80 then (some (Char.ofNat b.toNat), s)
  else if b < 0xC2 then (none, s)
  else if b < 0xE0 then readTail (b.toNat % 32) 1 0x80 0xBF s
  else if b = 0xE0 then readTail 0 2 0xA0 0xBF s
  else if b = 0xED then readTail 13 2 0x80 0x9F s
  else if b < 0xF0 then readTail (b.toNat % 16) 2 0x80 0xBF s
  else if b = 0xF0 then readTail 0 3 0x90 0xBF s
  else if b < 0xF4 then readTail (b.toNat % 8) 3 0x80 0xBF s
  else if b = 0xF4 then readTail 4 3 0x80 0x8F s
  else (none, s)

theorem length_readTail_le (n count : Nat) (low high : UInt8) (s : List UInt8) :
    (readTail n count low high s).2.length ≤ s.length := by
  fun_induction readTail n count low high s with
  | case1 => simp
  | case2 => simp
  | case3 n count low high b s h ih => simp only [List.length_cons]; omega
  | case4 => simp

theorem length_readChar_le (b : UInt8) (s : List UInt8) :
    (readChar b s).2.length ≤ s.length := by
  unfold readChar
  repeat' split
  all_goals first | exact length_readTail_le _ _ _ _ _ | exact Nat.le_refl _

/-- The characters of a sequence of bytes, with nothing for a malformed one. -/
def decodeAll (bytes : List UInt8) : List (Option Char) :=
  match bytes with
  | [] => []
  | b :: s => (readChar b s).1 :: decodeAll (readChar b s).2
termination_by bytes.length
decreasing_by
  have := length_readChar_le b s
  simp only [List.length_cons]
  omega

/-- The text of a sequence of bytes that is well formed. -/
def decode? (bytes : List UInt8) : Option (List Char) := (decodeAll bytes).mapM id

/-- The text of a sequence of bytes, with the replacement character for each fault. -/
def decodeLossy (bytes : List UInt8) : List Char :=
  (decodeAll bytes).map fun c => c.getD '\ufffd'

end FeatureDocs.Utf8
