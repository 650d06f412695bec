import Mathlib.Data.Nat.Digits.Lemmas
import CounterTrace.Proofs.Counters
import CounterTrace.Proofs.NumberTexts

/-!
# Texts of register addresses

An address that is not negative is written with lowercase hexadecimal digits, at least ten of them
and otherwise as many as it has. They read back to the address, whether zeros were put in front of
them or not. A negative number has its sign in front of the digits, in the place of one of the ten,
and no other number has its text.

The address of a counter is a word of sixty-four bits. Its text never has a sign, and it has between
ten and sixteen digits. Below bit forty ten digits are enough. From there on an address has more of
them, and nothing is left out.

## Main definitions

* `Numeral.IsHexText` — a text that is the mark of a hexadecimal number and its digits

## Main results

* `Numeral.exists_isHexText_address` — the digits of an address, how many they are, and their value
* `Numeral.length_digits_of_word` — how many digits the address of a register has
* `Counter.exists_word_of_mem` — the counters of a device have the addresses of their registers
* `Counter.addressText_reads_back` — the text of an address stands for it, digit by digit
-/

namespace CounterTrace

variable {text : String} {digits : List Char} {n : Nat}

namespace Numeral

/-- A text that is the mark of a hexadecimal number and, behind it, lowercase hexadecimal digits
that stand for a number. -/
structure IsHexText (text : String) (digits : List Char) (n : Nat) : Prop where
  shape : text.toList = '0' :: 'x' :: digits
  hexadecimal : ∀ c ∈ digits, c ∈ "0123456789abcdef".toList
  value : hexValue digits = n

/-- The text of a hexadecimal number has no sign. -/
theorem IsHexText.minus_notMem (hex : IsHexText text digits n) : '-' ∉ text.toList := by
  have mark : '-' ∉ "0123456789abcdef".toList := by decide
  rw [hex.shape, List.mem_cons, List.mem_cons]
  rintro (zero | x | digit)
  · cases zero
  · cases x
  · exact mark (hex.hexadecimal '-' digit)

/-- The digits of an address that is not negative: as many as it takes, and no fewer than ten. -/
theorem exists_isHexText_address (n : Nat) :
    ∃ digits, IsHexText (address n) digits n ∧
      digits.length = max 10 (Nat.digits 16 n).length := by
  refine ⟨(Nat.toDigits 16 n).leftpad addressWidth '0', ⟨?_, ?_, ?_⟩, ?_⟩
  · rw [toList_address, if_neg (Int.not_lt.mpr (Int.natCast_nonneg n)), Int.natAbs_natCast]
  · intro c member
    exact mem_leftpad_toDigits member
  · exact hexValue_leftpad_toDigits addressWidth n
  -- Both lengths are within the same bounds, as long as these are not zero.
  · have bounds (bound : Nat) :
        max 10 (Nat.toDigits 16 n).length ≤ bound ↔ max 10 (Nat.digits 16 n).length ≤ bound := by
      rw [Nat.max_le, Nat.max_le]
      refine and_congr_right fun wide => ?_
      rw [Nat.length_toDigits_le_iff (by omega) (by omega), Nat.digits_length_le_iff (by omega)]
    rw [List.length_leftpad]
    exact eq_of_forall_ge_iff bounds

/-- The digits of a register address: between ten and sixteen, and ten exactly below bit forty. -/
theorem length_digits_of_word (word : Address) {length : Nat}
    (known : length = max 10 (Nat.digits 16 word.toNat).length) :
    10 ≤ length ∧ length ≤ 16 ∧ (length = 10 ↔ word.toNat < 2 ^ 40) := by
  have short : (Nat.digits 16 word.toNat).length ≤ 10 ↔ word.toNat < 2 ^ 40 :=
    Nat.digits_length_le_iff (by omega) word.toNat
  have whole : (Nat.digits 16 word.toNat).length ≤ 16 :=
    (Nat.digits_length_le_iff (by omega) word.toNat).mpr word.isLt
  omega

end Numeral

namespace Counter

variable {geometry : Geometry} {store : CounterStore} {device : Int} {counters : List Counter}
  {counter : Counter}

/-- The counters of a device have the addresses of the registers of its configured counters. -/
theorem exists_word_of_mem (known : (enumerate geometry store device).result = .ok counters)
    (member : counter ∈ counters) :
    ∃ configured word, some configured ∈ store.slots device ∧
      geometry.counterAddress configured.column configured.row configured.number
        configured.module = .ok word ∧
      counter = ⟨configured.column, configured.row, configured.number, configured.module,
        word.toNat⟩ := by
  rw [enumerate_result] at known
  obtain ⟨configured, listed, addressed⟩ := exists_configured_of_mem known member
  obtain ⟨word, computed, same⟩ := ofConfigured_eq_ok_iff.mp addressed
  exact ⟨configured, word, listed, computed, same⟩

/-- The text of an address that is not negative is `0x` and lowercase hexadecimal digits, as many as
the address has but no fewer than ten, and they read back to it; and no two integers, of whatever
sign, have the same text. So each counter of a device has an address text without a sign, of ten to
sixteen digits, that reads back to the whole address of its register; it has ten digits exactly if
the address is below bit forty. -/
theorem addressText_reads_back :
    (∀ n : Nat, ∃ digits, Numeral.IsHexText (Numeral.address n) digits n ∧
      digits.length = max 10 (Nat.digits 16 n).length) ∧
    Function.Injective Numeral.address ∧
    ∀ (geometry : Geometry) (store : CounterStore) (device : Int) (counters : List Counter),
      (enumerate geometry store device).result = .ok counters → ∀ counter ∈ counters,
        ∃ configured word digits, some configured ∈ store.slots device ∧
          geometry.counterAddress configured.column configured.row configured.number
            configured.module = .ok word ∧
          counter = ⟨configured.column, configured.row, configured.number, configured.module,
            word.toNat⟩ ∧
          Numeral.IsHexText counter.addressText digits word.toNat ∧
          '-' ∉ counter.addressText.toList ∧ 10 ≤ digits.length ∧ digits.length ≤ 16 ∧
          (digits.length = 10 ↔ word.toNat < 2 ^ 40) := by
  refine ⟨Numeral.exists_isHexText_address, Numeral.address_injective, ?_⟩
  intro geometry store device counters known counter member
  obtain ⟨configured, word, listed, computed, rfl⟩ := exists_word_of_mem known member
  obtain ⟨digits, hex, length⟩ := Numeral.exists_isHexText_address word.toNat
  exact ⟨configured, word, digits, listed, computed, rfl, hex, hex.minus_notMem,
    Numeral.length_digits_of_word word length⟩

/-- A device with two counters, the first just above the addresses of ten digits and the second just
below their end. -/
def edgeStore : CounterStore :=
  ⟨[(0, [some ⟨2 ^ 15, 0, 0, "aie"⟩, none, some ⟨2 ^ 15 - 1, 31, 113655, "memory_tile"⟩])]⟩

/-- The counters of the device. -/
def edgeCounters : List Counter :=
  [⟨2 ^ 15, 0, 0, "aie", 0x10000031520⟩, ⟨2 ^ 15 - 1, 31, 113655, "memory_tile", 0xFFFFFFFFFC⟩]

theorem addressText_edgeStore :
    (enumerate ⟨25, 20⟩ edgeStore 0).result = .ok edgeCounters ∧
      edgeCounters.map addressText = ["0x10000031520", "0xfffffffffc"] ∧
      ∀ counter ∈ edgeCounters, ∃ digits,
        Numeral.IsHexText counter.addressText digits counter.address.toNat ∧
          (digits.length = 10 ↔ counter.address < 2 ^ 40) := by
  have known : (enumerate ⟨25, 20⟩ edgeStore 0).result = .ok edgeCounters := rfl
  obtain ⟨-, -, texts⟩ := addressText_reads_back
  refine ⟨known, by decide, fun counter member => ?_⟩
  obtain ⟨configured, word, digits, -, -, rfl, hex, -, -, -, few⟩ :=
    texts ⟨25, 20⟩ edgeStore 0 edgeCounters known counter member
  have bound : word.toNat < 2 ^ 40 ↔ (word.toNat : Int) < 2 ^ 40 := by omega
  exact ⟨digits, hex, few.trans bound⟩

end Counter

end CounterTrace
