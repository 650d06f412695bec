import CounterTrace.Proofs.Numerals

/-!
# Texts of numbers

A decimal text and the text of a register address each stand for one integer. Both begin with a
minus sign exactly where the integer is negative, and the digits behind it read back to the absolute
value; the zeros that fill an address up to the common width count for nothing.

## Main definitions

* `Numeral.hexDigitValue`, `Numeral.hexValue` — reading hexadecimal digits

## Main results

* `Numeral.hexValue_leftpad_toDigits` — hexadecimal digits read back, with zeros in front or not
* `Numeral.text_injective`, `Numeral.address_injective` — two integers never have the same text
-/

namespace CounterTrace.Numeral

/-! ### Reading hexadecimal digits -/

/-- The number that a lowercase hexadecimal digit stands for. -/
def hexDigitValue (c : Char) : Nat := if c.isDigit then c.toNat - 48 else c.toNat - 87

/-- The number that a run of lowercase hexadecimal digits stands for, most significant digit
first. -/
def hexValue (digits : List Char) : Nat :=
  digits.foldl (fun n c => 16 * n + hexDigitValue c) 0

theorem hexValue_toDigits (n : Nat) : hexValue (Nat.toDigits 16 n) = n := by
  have digit : ∀ d < 16, hexDigitValue (Nat.digitChar d) = d := by decide
  -- The digits in front of the last are those of the quotient by sixteen.
  induction n using Nat.strongRecOn with
  | ind n ih =>
    rw [Nat.toDigits_eq_if (by omega)]
    split
    case isTrue small =>
      simpa [hexValue] using digit n small
    case isFalse large =>
      have front := ih (n / 16) (by omega)
      rw [hexValue] at front ⊢
      rw [List.foldl_append, front, List.foldl_cons, List.foldl_nil, digit _ (by omega)]
      omega

/-- Zeros in front count for nothing. -/
theorem hexValue_leftpad (width : Nat) (digits : List Char) :
    hexValue (digits.leftpad width '0') = hexValue digits := by
  have zeros : ∀ count, (List.replicate count '0').foldl (fun n c => 16 * n + hexDigitValue c) 0 =
      0 := by
    intro count
    induction count with
    | zero => rfl
    | succ count ih => exact ih
  rw [hexValue, List.leftpad, List.foldl_append, zeros, ← hexValue]

/-- The digits of a number read back, whatever width they are filled up to. -/
theorem hexValue_leftpad_toDigits (width n : Nat) :
    hexValue ((Nat.toDigits 16 n).leftpad width '0') = n := by
  rw [hexValue_leftpad, hexValue_toDigits]

/-! ### Signs -/

/-- A minus sign where it is due, and a text of the absolute value that reads back, are the text of
one integer only. The texts of an absolute value may differ with the sign. -/
private theorem eq_of_signed {plain negated : Nat → List Char} {read : List Char → Nat}
    (unsigned : ∀ n, '-' ∉ plain n) (readPlain : ∀ n, read (plain n) = n)
    (readNegated : ∀ n, read (negated n) = n) {m n : Int}
    (same : (if m < 0 then '-' :: negated m.natAbs else plain m.natAbs) =
      if n < 0 then '-' :: negated n.natAbs else plain n.natAbs) : m = n := by
  by_cases first : m < 0 <;> by_cases second : n < 0
  · rw [if_pos first, if_pos second] at same
    have value := congrArg read (List.cons.inj same).2
    rw [readNegated, readNegated] at value
    omega
  · rw [if_pos first, if_neg second] at same
    exact absurd (same ▸ List.mem_cons_self) (unsigned n.natAbs)
  · rw [if_neg first, if_pos second] at same
    exact absurd (same ▸ List.mem_cons_self) (unsigned m.natAbs)
  · rw [if_neg first, if_neg second] at same
    have value := congrArg read same
    rw [readPlain, readPlain] at value
    omega

theorem minus_notMem_toDigits (n : Nat) : '-' ∉ Nat.toDigits 10 n := by
  intro member
  have digit := Nat.isDigit_of_mem_toDigits (by omega) (by omega) member
  exact absurd digit (by decide)

/-- Two integers never have the same decimal text. -/
theorem text_injective : Function.Injective text := by
  intro m n same
  have chars := congrArg String.toList same
  have signed : ∀ n : Int, (text n).toList =
      if n < 0 then '-' :: Nat.toDigits 10 n.natAbs else Nat.toDigits 10 n.natAbs := by
    intro n
    rw [toList_text]
    split <;> rfl
  rw [signed, signed] at chars
  exact eq_of_signed minus_notMem_toDigits value_toDigits value_toDigits chars

/-- The text of an address behind the mark of a hexadecimal number. -/
theorem toList_address (m : Int) :
    (address m).toList = '0' :: 'x' ::
      if m < 0 then '-' :: (Nat.toDigits 16 m.natAbs).leftpad (addressWidth - 1) '0'
      else (Nat.toDigits 16 m.natAbs).leftpad addressWidth '0' := by
  rw [address]
  split <;> rw [String.toList_ofList] <;> rfl

/-- Two integers never have the same text as addresses. -/
theorem address_injective : Function.Injective address := by
  intro m n same
  have chars := congrArg String.toList same
  rw [toList_address, toList_address, List.cons_inj_right, List.cons_inj_right] at chars
  have unsigned : '-' ∉ "0123456789abcdef".toList := by decide
  exact eq_of_signed (fun n member => unsigned (mem_leftpad_toDigits member))
    (hexValue_leftpad_toDigits addressWidth) (hexValue_leftpad_toDigits (addressWidth - 1)) chars

end CounterTrace.Numeral
