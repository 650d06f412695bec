/-!
# Decimal and hexadecimal numerals

Integers as text. A run of ASCII digits is read only up to a fixed length, leading zeros counted,
so that no input file can ask for an unbounded conversion; a number is written with the fewest
digits that stand for it. Decimal texts of the same length can be written, no longer ones.

The parsers of settings files keep the same bound, but they differ in one point: to some of them a
minus sign is one of the characters that are counted. Everything that is read from settings files is
therefore said for both rules, and the program follows the one that counts digits only.

## Main definitions

* `Numeral.value` — the number a run of digits stands for
* `Numeral.maxDigits`, `Numeral.read` — reading with the bound on the length
* `Numeral.text`, `Numeral.isWritable` — the decimal text of an integer, and whether it is in bounds
* `Numeral.SignRule`, `Numeral.isReadable` — whether a minus sign counts, and which integers a
  settings file can hold
* `Numeral.address` — the hexadecimal text of a register address
-/

namespace CounterTrace.Numeral

/-- The number that a run of ASCII digits stands for, most significant digit first. -/
def value (digits : List Char) : Nat :=
  digits.foldl (fun n c => 10 * n + (c.toNat - 48)) 0

/-- The longest run of digits that is read as a number. -/
def maxDigits : Nat := 4300

/-- The number of a run of digits, or the length of a run that is too long. -/
def read (digits : List Char) : Except Nat Nat :=
  if digits.length ≤ maxDigits then .ok (value digits) else .error digits.length

/-- The decimal text of an integer: a minus sign where it is negative and no leading zeros. -/
def text (n : Int) : String :=
  String.ofList ((if n < 0 then ['-'] else []) ++ Nat.toDigits 10 n.natAbs)

/-- Whether the decimal text of an integer has no more digits than a numeral may have. -/
def isWritable (n : Int) : Bool := (Nat.toDigits 10 n.natAbs).length ≤ maxDigits

/-- Whether the minus sign of an integer in a settings file counts as one of its digits. Releases of
the parser differ in this. -/
class SignRule where
  counted : Bool

/-- Digits alone are counted, unless another rule is assumed. -/
instance digitsOnly : SignRule := ⟨false⟩

/-- The longest run of digits that an integer in a settings file may have behind a minus sign, or
without one. -/
def maxDigitsBehind [SignRule] (negative : Bool) : Nat :=
  if SignRule.counted && negative then maxDigits - 1 else maxDigits

/-- Whether an integer in a settings file may be this one. -/
def isReadable [SignRule] (n : Int) : Bool :=
  (Nat.toDigits 10 n.natAbs).length ≤ maxDigitsBehind (decide (n < 0))

/-- The width that an address is filled up to with zeros; a minus sign counts. -/
def addressWidth : Nat := 10

/-- The text of a register address: `0x`, then lowercase hexadecimal digits filled up with zeros to
the common width. The sign of a negative number stands between the two. -/
def address (n : Int) : String :=
  let digits := Nat.toDigits 16 n.natAbs
  if n < 0 then String.ofList ("0x-".toList ++ digits.leftpad (addressWidth - 1) '0')
  else String.ofList ("0x".toList ++ digits.leftpad addressWidth '0')

theorem read_eq_ok {digits : List Char} (short : digits.length ≤ maxDigits) :
    read digits = .ok (value digits) := by
  simp [read, short]

theorem read_eq_error {digits : List Char} (long : maxDigits < digits.length) :
    read digits = .error digits.length := by
  simp [read, Nat.not_le.mpr long]

example : address 0x31520 = "0x0000031520" ∧ address (-1) = "0x-000000001" := by decide
example : text 0 = "0" ∧ text (-120) = "-120" := by decide

end CounterTrace.Numeral
