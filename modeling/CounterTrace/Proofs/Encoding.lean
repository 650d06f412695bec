import Mathlib.Data.List.Basic
import CounterTrace.Text.Utf8

/-!
# Encoding and decoding

The bytes of a text are decoded to that text. A character of more than one byte leaves its leading
bits in the first byte and six more in each of the others; the narrower bounds of the second byte
are kept because a character is encoded in its shortest form and is no surrogate.

## Main results

* `Utf8.foldl_encodeChar` — reading the bytes of a character
* `Utf8.decode_encode` — the bytes of a text are decoded to the text
-/

namespace CounterTrace.Utf8

variable {pieces : List Piece} {pending : Pending} {b : UInt8} {c : Char}

/-! ### One byte -/

theorem start_one {b : UInt8} (low : b.toNat < 0x80) :
    Reader.start pieces b = ⟨none, .char (Char.ofNat b.toNat) :: pieces⟩ := by
  rw [Reader.start, if_pos (UInt8.lt_iff_toNat_lt.mpr low)]

theorem start_two (low : 0xC2 ≤ b.toNat) (high : b.toNat < 0xE0) :
    Reader.start pieces b = ⟨some ⟨b, 1, 1, 0x80, 0xBF, b.toNat % 0x20⟩, pieces⟩ := by
  have notOne : ¬ b < 0x80 := by simp [UInt8.lt_iff_toNat_lt]; omega
  have notStray : ¬ b < 0xC2 := by simp [UInt8.lt_iff_toNat_lt]; omega
  rw [Reader.start, if_neg notOne, if_neg notStray, if_pos (UInt8.lt_iff_toNat_lt.mpr high)]

theorem start_three (low : 0xE0 ≤ b.toNat) (high : b.toNat < 0xF0) :
    Reader.start pieces b =
      ⟨some ⟨b, 1, 2, if b = 0xE0 then 0xA0 else 0x80, if b = 0xED then 0x9F else 0xBF,
        b.toNat % 0x10⟩, pieces⟩ := by
  have notOne : ¬ b < 0x80 := by simp [UInt8.lt_iff_toNat_lt]; omega
  have notStray : ¬ b < 0xC2 := by simp [UInt8.lt_iff_toNat_lt]; omega
  have notTwo : ¬ b < 0xE0 := by simp [UInt8.lt_iff_toNat_lt]; omega
  rw [Reader.start, if_neg notOne, if_neg notStray, if_neg notTwo,
    if_pos (UInt8.lt_iff_toNat_lt.mpr high)]

theorem start_four (low : 0xF0 ≤ b.toNat) (high : b.toNat < 0xF5) :
    Reader.start pieces b =
      ⟨some ⟨b, 1, 3, if b = 0xF0 then 0x90 else 0x80, if b = 0xF4 then 0x8F else 0xBF,
        b.toNat % 0x08⟩, pieces⟩ := by
  have notOne : ¬ b < 0x80 := by simp [UInt8.lt_iff_toNat_lt]; omega
  have notStray : ¬ b < 0xC2 := by simp [UInt8.lt_iff_toNat_lt]; omega
  have notTwo : ¬ b < 0xE0 := by simp [UInt8.lt_iff_toNat_lt]; omega
  have notThree : ¬ b < 0xF0 := by simp [UInt8.lt_iff_toNat_lt]; omega
  rw [Reader.start, if_neg notOne, if_neg notStray, if_neg notTwo, if_neg notThree,
    if_pos (UInt8.lt_iff_toNat_lt.mpr high)]

/-- A byte within the bounds goes on with an unfinished character, and finishes it if it is the last
one missing. -/
theorem step_within (low : pending.low.toNat ≤ b.toNat) (high : b.toNat ≤ pending.high.toNat) :
    Reader.step ⟨some pending, pieces⟩ b =
      if pending.missing ≤ 1 then
        ⟨none, .char (Char.ofNat (pending.bits * 0x40 + b.toNat % 0x40)) :: pieces⟩
      else
        ⟨some ⟨pending.first, pending.seen + 1, pending.missing - 1, 0x80, 0xBF,
          pending.bits * 0x40 + b.toNat % 0x40⟩, pieces⟩ := by
  have within : (pending.low ≤ b && b ≤ pending.high) = true := by
    simp [UInt8.le_iff_toNat_le, low, high]
  rw [Reader.step]
  dsimp only
  rw [if_pos within]

/-! ### One character -/

/-- A byte that holds some bits behind a fixed beginning. -/
private theorem toNat_byte (n mark size : Nat) (small : mark + size ≤ 0x100) (positive : 0 < size) :
    (UInt8.ofNat (n % size + mark)).toNat = n % size + mark := by
  have below := Nat.mod_lt n positive
  have fits : n % size + mark < 0x100 := by omega
  exact UInt8.toNat_ofNat_of_lt' fits

private theorem step_none : Reader.step ⟨none, pieces⟩ b = Reader.start pieces b := rfl

variable {n : Nat} {lead second third last : UInt8}

private theorem foldl_two (low : 0x80 ≤ n) (high : n < 0x800)
    (leadBits : lead.toNat = n / 64 % 0x20 + 0xC0) (lastBits : last.toNat = n % 0x40 + 0x80) :
    [lead, last].foldl Reader.step ⟨none, pieces⟩ = ⟨none, .char (Char.ofNat n) :: pieces⟩ := by
  have whole : lead.toNat % 0x20 * 0x40 + last.toNat % 0x40 = n := by omega
  rw [List.foldl_cons, List.foldl_cons, List.foldl_nil, step_none,
    start_two (by omega) (by omega), step_within (by simp; omega) (by simp; omega)]
  simp only [whole, Nat.le_refl, if_true]

private theorem foldl_three (low : 0x800 ≤ n) (high : n < 0x10000)
    (valid : n < 0xD800 ∨ 0xDFFF < n) (leadBits : lead.toNat = n / 4096 % 0x10 + 0xE0)
    (secondBits : second.toNat = n / 64 % 0x40 + 0x80) (lastBits : last.toNat = n % 0x40 + 0x80) :
    [lead, second, last].foldl Reader.step ⟨none, pieces⟩ =
      ⟨none, .char (Char.ofNat n) :: pieces⟩ := by
  have whole : (lead.toNat % 0x10 * 0x40 + second.toNat % 0x40) * 0x40 + last.toNat % 0x40 = n := by
    omega
  -- The shortest form and the surrogates bound the second byte.
  have lower : (if lead = 0xE0 then (0xA0 : UInt8) else 0x80).toNat ≤ second.toNat := by
    split
    · rename_i shorter
      subst shorter
      simp at leadBits ⊢
      omega
    · simp
      omega
  have upper : second.toNat ≤ (if lead = 0xED then (0x9F : UInt8) else 0xBF).toNat := by
    split
    · rename_i surrogates
      subst surrogates
      simp at leadBits ⊢
      omega
    · simp
      omega
  rw [List.foldl_cons, List.foldl_cons, List.foldl_cons, List.foldl_nil, step_none,
    start_three (by omega) (by omega), step_within lower upper]
  simp only [Nat.reduceLeDiff, if_false, Nat.reduceSub]
  rw [step_within (by simp; omega) (by simp; omega)]
  simp only [whole, Nat.le_refl, if_true]

private theorem foldl_four (low : 0x10000 ≤ n) (high : n < 0x110000)
    (leadBits : lead.toNat = n / 262144 % 0x08 + 0xF0)
    (secondBits : second.toNat = n / 4096 % 0x40 + 0x80)
    (thirdBits : third.toNat = n / 64 % 0x40 + 0x80) (lastBits : last.toNat = n % 0x40 + 0x80) :
    [lead, second, third, last].foldl Reader.step ⟨none, pieces⟩ =
      ⟨none, .char (Char.ofNat n) :: pieces⟩ := by
  have whole : ((lead.toNat % 0x08 * 0x40 + second.toNat % 0x40) * 0x40 +
      third.toNat % 0x40) * 0x40 + last.toNat % 0x40 = n := by
    omega
  -- The shortest form and the last character bound the second byte.
  have lower : (if lead = 0xF0 then (0x90 : UInt8) else 0x80).toNat ≤ second.toNat := by
    split
    · rename_i shorter
      subst shorter
      simp at leadBits ⊢
      omega
    · simp
      omega
  have upper : second.toNat ≤ (if lead = 0xF4 then (0x8F : UInt8) else 0xBF).toNat := by
    split
    · rename_i greatest
      subst greatest
      simp at leadBits ⊢
      omega
    · simp
      omega
  rw [List.foldl_cons, List.foldl_cons, List.foldl_cons, List.foldl_cons, List.foldl_nil, step_none,
    start_four (by omega) (by omega), step_within lower upper]
  simp only [Nat.reduceLeDiff, if_false, Nat.reduceSub]
  rw [step_within (by simp; omega) (by simp; omega)]
  simp only [Nat.reduceLeDiff, if_false, Nat.reduceSub]
  rw [step_within (by simp; omega) (by simp; omega)]
  simp only [whole, Nat.le_refl, if_true]

/-- The bytes of a character are read as the character. -/
theorem foldl_encodeChar (c : Char) (pieces : List Piece) :
    (String.utf8EncodeChar c).foldl Reader.step ⟨none, pieces⟩ = ⟨none, .char c :: pieces⟩ := by
  have valid : c.toNat < 0xD800 ∨ 0xDFFF < c.toNat ∧ c.toNat < 0x110000 := c.valid
  have itself : Char.ofNat c.toNat = c := Char.ofNat_toNat c
  have read : (String.utf8EncodeChar c).foldl Reader.step ⟨none, pieces⟩ =
      ⟨none, .char (Char.ofNat c.toNat) :: pieces⟩ := by
    rw [String.utf8EncodeChar, show c.val.toNat = c.toNat from rfl]
    split
    · have fits : c.toNat < 0x100 := by omega
      have bits : (UInt8.ofNat c.toNat).toNat = c.toNat := UInt8.toNat_ofNat_of_lt' fits
      rw [List.foldl_cons, List.foldl_nil, step_none, start_one (by omega), bits]
    split
    · exact foldl_two (by omega) (by omega) (toNat_byte _ 0xC0 0x20 (by omega) (by omega))
        (toNat_byte _ 0x80 0x40 (by omega) (by omega))
    split
    · exact foldl_three (by omega) (by omega) (by omega)
        (toNat_byte _ 0xE0 0x10 (by omega) (by omega))
        (toNat_byte _ 0x80 0x40 (by omega) (by omega))
        (toNat_byte _ 0x80 0x40 (by omega) (by omega))
    · exact foldl_four (by omega) (by omega) (toNat_byte _ 0xF0 0x08 (by omega) (by omega))
        (toNat_byte _ 0x80 0x40 (by omega) (by omega))
        (toNat_byte _ 0x80 0x40 (by omega) (by omega))
        (toNat_byte _ 0x80 0x40 (by omega) (by omega))
  rw [read, itself]

/-! ### A text -/

theorem foldl_encode (text : List Char) (pieces : List Piece) :
    (encode text).foldl Reader.step ⟨none, pieces⟩ =
      ⟨none, (text.map Piece.char).reverse ++ pieces⟩ := by
  induction text generalizing pieces with
  | nil => rfl
  | cons c text ih =>
    rw [encode, List.flatMap_cons, List.foldl_append, foldl_encodeChar, ← encode, ih]
    simp

theorem decodePieces_char (position : Nat) (before text : List Char) :
    decodePieces position before (text.map Piece.char) = .ok (before.reverse ++ text) := by
  induction text generalizing position before with
  | nil =>
    rw [List.map_nil, decodePieces, List.append_nil]
  | cons c text ih =>
    rw [List.map_cons, decodePieces, ih]
    simp

/-- The bytes of a text are decoded to the text. -/
theorem decode_encode (text : List Char) : decode (encode text) = .ok text := by
  have read : Utf8.pieces (encode text) = text.map Piece.char := by
    rw [Utf8.pieces, foldl_encode, List.append_nil, Reader.finish, List.reverse_reverse]
  rw [decode, read]
  exact decodePieces_char 0 [] text

end CounterTrace.Utf8
