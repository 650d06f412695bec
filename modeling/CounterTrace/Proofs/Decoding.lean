import Mathlib.Algebra.Group.Nat.Defs
import Mathlib.Data.List.Basic
import CounterTrace.Text.Utf8

/-!
# What a decoded text shows of its bytes

Decoding keeps the ASCII part of a byte sequence, to the byte. An ASCII byte is never part of a
longer character and never of an ill-formed piece, so that it is shown as itself, at its place; all
other bytes are shown as characters beyond ASCII, several of them perhaps as one. For this an
unfinished character must not come to an ASCII character, nor to a number that is no character: the
numbers it can still come to lie in an interval, and each byte makes the interval smaller.

## Main definitions

* `Utf8.asChar` — the character with the number of a byte
* `Utf8.Shows` — a text that shows the ASCII part of a byte sequence
* `Utf8.Pending.Sound` — an unfinished character that can only become one beyond ASCII

## Main results

* `Utf8.Reader.Reads.step` — what one byte does to the reader
* `Utf8.shows_decodeReplacing` — a decoded text shows its bytes
-/

namespace CounterTrace.Utf8

variable {bytes more run before done : List UInt8} {text others : List Char} {b : UInt8}
  {pieces : List Piece} {pending : Pending} {reader : Reader}

/-- The number of the character with a valid number. -/
theorem toNat_ofNat {n : Nat} (valid : n.isValidChar) : (Char.ofNat n).toNat = n := by
  rw [Char.ofNat, dif_pos valid]
  rfl

/-- The character with the number of a byte. -/
def asChar (b : UInt8) : Char := Char.ofNat b.toNat

theorem toNat_asChar (b : UInt8) : (asChar b).toNat = b.toNat :=
  toNat_ofNat (Or.inl (Nat.lt_trans b.toNat_lt (by decide)))

/-- A text shows bytes if each ASCII byte stands in it as itself, and the bytes between two of them
as characters beyond ASCII, each for at least one byte. -/
inductive Shows : List UInt8 → List Char → Prop
  | nil : Shows [] []
  | ascii {b : UInt8} {bytes : List UInt8} {text : List Char} (low : b < 0x80)
      (onward : Shows bytes text) : Shows (b :: bytes) (asChar b :: text)
  | other {run bytes : List UInt8} {c : Char} {text : List Char} (proper : run ≠ [])
      (high : ∀ b ∈ run, 0x80 ≤ b) (beyond : 0x80 ≤ c.toNat) (onward : Shows bytes text) :
      Shows (run ++ bytes) (c :: text)

theorem Shows.append (first : Shows bytes text) (second : Shows more others) :
    Shows (bytes ++ more) (text ++ others) := by
  induction first with
  | nil => exact second
  | ascii low onward ih => exact .ascii low ih
  | other proper high beyond onward ih =>
    rw [List.append_assoc]
    exact .other proper high beyond ih

/-- One more character beyond ASCII, for a run of bytes beyond ASCII. -/
theorem Shows.concat_other {c : Char} (shown : Shows bytes text) (proper : run ≠ [])
    (high : ∀ b ∈ run, 0x80 ≤ b) (beyond : 0x80 ≤ c.toNat) :
    Shows (bytes ++ run) (text ++ [c]) := by
  have last := Shows.other proper high beyond .nil
  rw [List.append_nil] at last
  exact shown.append last

/-! ### Unfinished characters -/

namespace Pending

/-- The least number that an unfinished character can come to. -/
def least (p : Pending) : Nat := (p.bits * 0x40 + p.low.toNat % 0x40) * 0x40 ^ (p.missing - 1)

/-- The greatest number that an unfinished character can come to. -/
def greatest (p : Pending) : Nat :=
  (p.bits * 0x40 + p.high.toNat % 0x40) * 0x40 ^ (p.missing - 1) + (0x40 ^ (p.missing - 1) - 1)

/-- Whatever an unfinished character comes to is a character beyond ASCII: all the numbers are on
one side of the surrogates. -/
structure Sound (p : Pending) : Prop where
  missing : 1 ≤ p.missing ∧ p.missing ≤ 3
  next : 0x80 ≤ p.low.toNat ∧ p.high.toNat ≤ 0xBF
  beyond : 0x80 ≤ p.least
  character : p.greatest < 0xD800 ∨ 0xDFFF < p.least ∧ p.greatest < 0x110000

/-- With nothing known of the next byte but that it continues, the numbers are all those with the
same leading bits; `unit` is what the last of these bits counts for. -/
theorem sound_of_bits {first : UInt8} {seen missing bits : Nat} (unit : Nat)
    (size : 0x40 ^ (missing - 1) = unit) (count : 1 ≤ missing ∧ missing ≤ 3)
    (beyond : 0x80 ≤ bits * 0x40 * unit)
    (character : (bits * 0x40 + 0x3F) * unit + (unit - 1) < 0xD800 ∨
      0xDFFF < bits * 0x40 * unit ∧ (bits * 0x40 + 0x3F) * unit + (unit - 1) < 0x110000) :
    Sound ⟨first, seen, missing, 0x80, 0xBF, bits⟩ := by
  subst size
  have least : Pending.least ⟨first, seen, missing, 0x80, 0xBF, bits⟩ =
      bits * 0x40 * 0x40 ^ (missing - 1) := by
    simp [Pending.least]
  have greatest : Pending.greatest ⟨first, seen, missing, 0x80, 0xBF, bits⟩ =
      (bits * 0x40 + 0x3F) * 0x40 ^ (missing - 1) + (0x40 ^ (missing - 1) - 1) := by
    simp [Pending.greatest]
  refine ⟨count, by simp, ?_, ?_⟩
  · rw [least]
    exact beyond
  · rw [least, greatest]
    exact character

/-- The first of two bytes. -/
theorem sound_two (low : 0xC2 ≤ b.toNat) (high : b.toNat < 0xE0) :
    Sound ⟨b, 1, 1, 0x80, 0xBF, b.toNat % 0x20⟩ := by
  exact sound_of_bits 1 rfl (by omega) (by omega) (by omega)

/-- The first of three bytes. The bounds of the second byte leave out what has a shorter form, and
the surrogates. -/
theorem sound_three (low : 0xE0 ≤ b.toNat) (high : b.toNat < 0xF0) :
    Sound ⟨b, 1, 2, if b = 0xE0 then 0xA0 else 0x80, if b = 0xED then 0x9F else 0xBF,
      b.toNat % 0x10⟩ := by
  by_cases shorter : b = 0xE0
  · subst shorter
    exact ⟨by decide, by decide, by decide, by decide⟩
  by_cases surrogates : b = 0xED
  · subst surrogates
    exact ⟨by decide, by decide, by decide, by decide⟩
  have notFirst : b.toNat ≠ 0xE0 := fun same => shorter (UInt8.toNat_inj.mp same)
  have notSurrogates : b.toNat ≠ 0xED := fun same => surrogates (UInt8.toNat_inj.mp same)
  rw [if_neg shorter, if_neg surrogates]
  exact sound_of_bits 0x40 rfl (by omega) (by omega) (by omega)

/-- The first of four bytes. The bounds of the second byte leave out what has a shorter form, and
what lies beyond the last character. -/
theorem sound_four (low : 0xF0 ≤ b.toNat) (high : b.toNat < 0xF5) :
    Sound ⟨b, 1, 3, if b = 0xF0 then 0x90 else 0x80, if b = 0xF4 then 0x8F else 0xBF,
      b.toNat % 0x08⟩ := by
  by_cases shorter : b = 0xF0
  · subst shorter
    exact ⟨by decide, by decide, by decide, by decide⟩
  by_cases last : b = 0xF4
  · subst last
    exact ⟨by decide, by decide, by decide, by decide⟩
  have notFirst : b.toNat ≠ 0xF0 := fun same => shorter (UInt8.toNat_inj.mp same)
  have notLast : b.toNat ≠ 0xF4 := fun same => last (UInt8.toNat_inj.mp same)
  rw [if_neg shorter, if_neg last]
  exact sound_of_bits 0x1000 rfl (by omega) (by omega) (by omega)

/-- A byte within the bounds makes the interval smaller. -/
theorem Sound.next_byte {p : Pending} (sound : p.Sound) (more : 1 < p.missing) (low : p.low ≤ b)
    (high : b ≤ p.high) :
    Sound ⟨p.first, p.seen + 1, p.missing - 1, 0x80, 0xBF, p.bits * 0x40 + b.toNat % 0x40⟩ := by
  obtain ⟨first, seen, missing, lowest, highest, bits⟩ := p
  obtain ⟨⟨-, few⟩, next, beyond, character⟩ := sound
  rw [UInt8.le_iff_toNat_le] at low high
  dsimp only at *
  obtain rfl | rfl : missing = 2 ∨ missing = 3 := by omega
  all_goals simp only [least, greatest, Nat.reduceSub, Nat.reducePow] at beyond character
  · exact sound_of_bits 1 rfl (by omega) (by omega) (by omega)
  · exact sound_of_bits 0x40 rfl (by omega) (by omega) (by omega)

/-- The last byte makes a character beyond ASCII. -/
theorem Sound.last_byte {p : Pending} (sound : p.Sound) (last : p.missing ≤ 1) (low : p.low ≤ b)
    (high : b ≤ p.high) :
    0x80 ≤ (Char.ofNat (p.bits * 0x40 + b.toNat % 0x40)).toNat := by
  obtain ⟨first, seen, missing, lowest, highest, bits⟩ := p
  obtain ⟨⟨some, -⟩, next, beyond, character⟩ := sound
  rw [UInt8.le_iff_toNat_le] at low high
  dsimp only at *
  obtain rfl : missing = 1 := by omega
  simp only [least, greatest, Nat.reduceSub, Nat.reducePow] at beyond character
  have valid : (bits * 0x40 + b.toNat % 0x40).isValidChar := by
    rw [Nat.isValidChar]
    omega
  rw [toNat_ofNat valid]
  omega

end Pending

/-! ### The reader -/

/-- A reader has read bytes: its pieces show all of them, apart from a last run of bytes beyond
ASCII that belong to an unfinished character. -/
inductive Reader.Reads : Reader → List UInt8 → Prop
  | settled {pieces : List Piece} {done : List UInt8}
      (shown : Shows done (pieces.reverse.map Piece.shown)) : Reads ⟨none, pieces⟩ done
  | pending {pieces : List Piece} {before run : List UInt8} {p : Pending}
      (shown : Shows before (pieces.reverse.map Piece.shown)) (sound : p.Sound) (proper : run ≠ [])
      (high : ∀ b ∈ run, 0x80 ≤ b) : Reads ⟨some p, pieces⟩ (before ++ run)

namespace Reader

/-- An ill-formed piece is shown as a character beyond ASCII. -/
theorem shows_illFormed {flaw : Flaw} {length : Nat} {first : UInt8}
    (shown : Shows before (pieces.reverse.map Piece.shown)) (proper : run ≠ [])
    (high : ∀ b ∈ run, 0x80 ≤ b) :
    Shows (before ++ run)
      ((Piece.illFormed flaw first length :: pieces).reverse.map Piece.shown) := by
  rw [List.reverse_cons, List.map_append]
  exact shown.concat_other proper high (show 0x80 ≤ (Char.toNat '\uFFFD') by decide)

/-- A byte where a character starts. -/
theorem Reads.start (shown : Shows done (pieces.reverse.map Piece.shown)) (b : UInt8) :
    Reads (Reader.start pieces b) (done ++ [b]) := by
  have single : [b] ≠ [] := List.cons_ne_nil b []
  rw [Reader.start]
  split
  case isTrue low =>
    refine .settled ?_
    rw [List.reverse_cons, List.map_append]
    exact shown.append (.ascii low .nil)
  case isFalse notLow =>
  have high : ∀ c ∈ [b], 0x80 ≤ c := by
    simpa using UInt8.not_lt.mp notLow
  split
  · exact .settled (shows_illFormed shown single high)
  rename_i notStray
  split
  · rename_i two
    rw [UInt8.lt_iff_toNat_lt] at notStray two
    exact .pending shown (Pending.sound_two (Nat.not_lt.mp notStray) two) single high
  rename_i notTwo
  split
  · rename_i three
    rw [UInt8.lt_iff_toNat_lt] at notTwo three
    exact .pending shown (Pending.sound_three (Nat.not_lt.mp notTwo) three) single high
  rename_i notThree
  split
  · rename_i four
    rw [UInt8.lt_iff_toNat_lt] at notThree four
    exact .pending shown (Pending.sound_four (Nat.not_lt.mp notThree) four) single high
  · exact .settled (shows_illFormed shown single high)

/-- One byte more. -/
theorem Reads.step (reads : Reads reader done) (b : UInt8) :
    Reads (reader.step b) (done ++ [b]) := by
  cases reads with
  | settled shown => exact Reads.start shown b
  | @pending pieces before run p shown sound proper high =>
    rw [Reader.step]
    dsimp only
    split
    -- The byte goes on with the unfinished character, and is itself beyond ASCII.
    · rename_i inside
      rw [Bool.and_eq_true, decide_eq_true_eq, decide_eq_true_eq] at inside
      obtain ⟨low, upper⟩ := inside
      have beyond : 0x80 ≤ b := by
        have lowest := sound.next.1
        rw [UInt8.le_iff_toNat_le] at low ⊢
        exact Nat.le_trans lowest low
      have longer : run ++ [b] ≠ [] := by simp
      have allHigh : ∀ c ∈ run ++ [b], 0x80 ≤ c := by
        simpa [or_imp, forall_and] using ⟨high, beyond⟩
      rw [List.append_assoc]
      split
      · rename_i last
        refine .settled ?_
        rw [List.reverse_cons, List.map_append]
        exact shown.concat_other longer allHigh (sound.last_byte last low upper)
      · rename_i notLast
        exact .pending shown (sound.next_byte (Nat.not_le.mp notLast) low upper) longer allHigh
    -- It ends the unfinished character and is read where a character starts.
    · exact Reads.start (shows_illFormed shown proper high) b

theorem Reads.foldl (reads : Reads reader done) (bytes : List UInt8) :
    Reads (bytes.foldl Reader.step reader) (done ++ bytes) := by
  induction bytes generalizing reader done with
  | nil => simpa using reads
  | cons b bytes ih => simpa using ih (reads.step b)

/-- At the end an unfinished character is one more ill-formed piece. -/
theorem Reads.finish (reads : Reads reader done) : Shows done (reader.finish.map Piece.shown) := by
  cases reads with
  | settled shown => exact shown
  | pending shown sound proper high => exact shows_illFormed shown proper high

end Reader

/-- A text that is decoded with replacement shows its bytes. -/
theorem shows_decodeReplacing (bytes : List UInt8) : Shows bytes (decodeReplacing bytes) := by
  have fresh : Reader.Reads ⟨none, []⟩ [] := .settled .nil
  exact (fresh.foldl bytes).finish

end CounterTrace.Utf8
