import CounterTrace.Json.Binary64
import CounterTrace.Json.Value
import CounterTrace.Settings.Issue
import CounterTrace.Text.Blank

/-!
# Integers in settings files

Where a setting is an integer, several ways to write it are accepted: an integer literal, a number
that is integral in double precision and fits into sixty-four bits with a sign, a truth value as one
or zero, and a string with an integer numeral.

A string is read as it stands first: a minus sign or none, and digits without a leading zero. If
that fails, it is simplified and read once more: blanks around it, a plus sign, leading zeros with
the underscores among them, a fraction of zeros and single underscores are dropped. The leading
zeros may stand before or behind a minus sign, but not both. Only the first reading tells a numeral
that is too long from one that is no numeral.

## Main definitions

* `Settings.plainInteger` — reading a string as it stands
* `Settings.simplified?` — the simplified string
* `Settings.integerOfText` — the integer of a string
* `Settings.integerOfValue` — the integer of a JSON value
-/

namespace CounterTrace.Settings

section

variable [Numeral.SignRule]

/-- The integer of a numeral in plain form: a minus sign or none, and digits without a leading zero.
A run of digits over the limit is too large whatever stands behind it. -/
def plainInteger (text : List Char) : Except Problem Int :=
  let (negative, unsigned) := Json.splitSign text
  let digits := unsigned.takeWhile Char.isDigit
  if digits.isEmpty || (digits.head? == some '0' && digits.length != 1) then
    .error .unreadableInteger
  else if Numeral.maxDigitsBehind negative < digits.length then .error .integerTooLarge
  else if (unsigned.dropWhile Char.isDigit).isEmpty then
    .ok (if negative then -(Numeral.value digits : Int) else Numeral.value digits)
  else .error .unreadableInteger

/-- The text without a plus sign at its front, behind which no minus sign may stand. -/
def dropPlus? : List Char → Option (List Char)
  | '+' :: '-' :: _ => none
  | '+' :: rest => some rest
  | text => some text

/-- Whether a numeral whose leading zeros are dropped may start with the character: a digit other
than zero, or a minus sign. -/
def isNumeralStart (c : Char) : Bool :=
  c == '-' || (c.isDigit && c != '0')

/-- The text from the end of a run of zeros and underscores on; `previous` is the character before
the text. Before a point, and at the end of the text, that character is kept. -/
def skipZeros? (previous : Char) : List Char → Option (List Char)
  | [] => some [previous]
  | c :: rest =>
    if c == '0' || c == '_' then skipZeros? c rest
    else if isNumeralStart c then some (c :: rest)
    else if c == '.' then some (previous :: c :: rest)
    else none

/-- The text without the zeros at its front, which may be mixed with underscores. A minus sign may
stand behind them. -/
def dropZeros? : List Char → Option (List Char)
  | [] => none
  | c :: rest =>
    if c == '0' then skipZeros? c rest else if isNumeralStart c then some (c :: rest) else none

/-- The numeral without its leading zeros, its minus sign kept. -/
def dropLeadingZeros? : List Char → Option (List Char)
  | '-' :: rest => (dropZeros? rest).map ('-' :: ·)
  | text => dropZeros? text

/-- The text up to its first point, if only zeros stand behind the point, and at least one. -/
def dropZeroFraction (text : List Char) : List Char :=
  match text.dropWhile (· != '.') with
  | _ :: zeros =>
    if !zeros.isEmpty && zeros.all (· == '0') then text.takeWhile (· != '.') else text
  | [] => text

/-- The text without underscores, if each of them stands alone and none at either end. -/
def dropUnderscores (text : List Char) : List Char :=
  if (text.splitOn '_').all (!·.isEmpty) then text.filter (· != '_') else text

/-- The simplified text of a numeral; none where the text cannot be a numeral. -/
def simplified? (text : List Char) : Option (List Char) :=
  ((dropPlus? (Text.trim text)).bind dropLeadingZeros?).map fun rest =>
    dropUnderscores (dropZeroFraction rest)

/-- The integer of a string: read as it stands, and otherwise from its simplified text. -/
def integerOfText (text : List Char) : Except Problem Int :=
  match plainInteger text with
  | .ok n => .ok n
  | .error .integerTooLarge => .error .integerTooLarge
  | .error _ =>
    match (simplified? text).map plainInteger with
    | some (.ok n) => .ok n
    | _ => .error .unreadableInteger

/-- The integer of a number that is not written as one. -/
def integerOfFractional : Json.Fractional → Except Problem Int
  | .infinity => .error .notFinite
  | .notANumber => .error .notFinite
  | .decimal negative digits exponent =>
    match Json.Binary64.nearest digits exponent with
    | .infinite => .error .notFinite
    | .finite mantissa scale =>
      match Json.Binary64.integer? mantissa scale with
      | none => .error .fractionalInteger
      | some n =>
        if n < Nat.pow 2 63 then .ok (if negative then -(n : Int) else n)
        else .error .integerTooLarge

/-- The integer that a JSON value stands for. -/
def integerOfValue : Json.Value → Except Problem Int
  | .integer n => .ok n
  | .bool b => .ok (if b then 1 else 0)
  | .fractional x => integerOfFractional x
  | .string text => integerOfText text.toList
  | .null => .error .notInteger
  | .array _ => .error .notInteger
  | .object _ => .error .notInteger

/-- The check of a JSON value that must stand for an integer. -/
def checkInteger (value : Json.Value) : Checked Int :=
  match integerOfValue value with
  | .ok n => .ok n
  | .error problem => Checked.fail problem

end

example : integerOfText "0_-3".toList = .ok (-3) := by rfl
example : integerOfText " +1_0.00".toList = .ok 10 := by rfl
example : integerOfText "-0_5".toList = .ok (-5) := by rfl
example : integerOfText "0-05".toList = .error .unreadableInteger := by rfl

end CounterTrace.Settings
