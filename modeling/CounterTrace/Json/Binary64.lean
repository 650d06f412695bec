/-!
# Double precision

A JSON number with a fraction or an exponent is taken as the double-precision number nearest to it.
The rounding is done exactly, on natural numbers; of two nearest numbers the one with the even
mantissa is taken.

## Main definitions

* `Binary64.roundQuotient` — the integer nearest to a quotient
* `Binary64.nearest` — the nearest double-precision number of a decimal number
* `Binary64.integer?` — the integer that a double-precision number is, if it is one
-/

namespace CounterTrace.Json

/-- A non-negative double-precision number: a mantissa times a power of two, or the infinity that
stands for all numbers beyond the largest finite one. -/
inductive Binary64 where
  | finite (mantissa : Nat) (exponent : Int)
  | infinite
  deriving DecidableEq

namespace Binary64

/-- The integer nearest to a quotient; of two nearest ones the even one. -/
def roundQuotient (numerator denominator : Nat) : Nat :=
  let floor := numerator / denominator
  let rest := 2 * (numerator % denominator)
  if rest < denominator then floor
  else if denominator < rest then floor + 1
  else floor + floor % 2

/-- The exponent of the smallest positive number. -/
def minExponent : Int := -1074

/-- A fraction divided by a power of two. -/
def scaled (numerator denominator : Nat) (exponent : Int) : Nat × Nat :=
  if 0 ≤ exponent then (numerator, denominator * Nat.pow 2 exponent.toNat)
  else (numerator * Nat.pow 2 (-exponent).toNat, denominator)

/-- The double-precision number nearest to a positive fraction. The exponent is the one that leaves
a mantissa of fifty-three bits, or the smallest there is. -/
def ofFraction (numerator denominator : Nat) : Binary64 :=
  let estimate := max ((numerator.log2 : Int) - (denominator.log2 : Int) - 53) minExponent
  let (n, d) := scaled numerator denominator estimate
  let exponent := if Nat.pow 2 53 ≤ n / d then estimate + 1 else estimate
  let (n, d) := scaled numerator denominator exponent
  let mantissa := roundQuotient n d
  if 0 ≤ exponent ∧ Nat.pow 2 1024 ≤ mantissa * Nat.pow 2 exponent.toNat then .infinite
  else .finite mantissa exponent

/-- The double-precision number nearest to `digits · 10 ^ exponent`. What lies far outside the range
of double precision is decided by its order of magnitude alone. -/
def nearest (digits : Nat) (exponent : Int) : Binary64 :=
  let magnitude := ((Nat.toDigits 10 digits).length : Int) + exponent
  if digits = 0 ∨ magnitude < -330 then .finite 0 0
  else if 310 < magnitude then .infinite
  else if 0 ≤ exponent then ofFraction (digits * Nat.pow 10 exponent.toNat) 1
  else ofFraction digits (Nat.pow 10 (-exponent).toNat)

/-- The integer that a finite number is, if it has no fractional part. -/
def integer? (mantissa : Nat) (exponent : Int) : Option Nat :=
  if 0 ≤ exponent then some (mantissa * Nat.pow 2 exponent.toNat)
  else if mantissa % Nat.pow 2 (-exponent).toNat = 0 then
    some (mantissa / Nat.pow 2 (-exponent).toNat)
  else none

end Binary64

end CounterTrace.Json
