import CounterTrace.Text.Numeral

/-!
# JSON values

The values of a JSON document. Objects keep their members in the order of the document, repeated
names included; a look-up takes the last member of a name. Numbers without fraction and exponent are
integers of any size; the others keep the decimal number that was written, and the words for the
numbers that are not finite are allowed too.

## Main definitions

* `Json.Value`, `Json.Fractional` — values, and numbers that are not written as integers
* `Json.Value.ofWord?` — the value that a bare word stands for
* `Json.member?` — the last member of a name
-/

namespace CounterTrace.Json

/-- A number written with a fraction or an exponent, as `± digits · 10 ^ exponent`, or one of the
words for a number that is not finite. -/
inductive Fractional where
  | decimal (negative : Bool) (digits : Nat) (exponent : Int)
  | infinity
  | notANumber
  deriving DecidableEq

/-- A JSON value. -/
inductive Value where
  | null
  | bool (value : Bool)
  | integer (value : Int)
  | fractional (value : Fractional)
  | string (value : String)
  | array (items : List Value)
  | object (members : List (String × Value))
  deriving BEq, Inhabited

/-- The last member of a name. -/
def member? (members : List (String × Value)) (name : String) : Option Value :=
  members.reverse.lookup name

/-- Splits off a minus sign. -/
def splitSign : List Char → Bool × List Char
  | '-' :: rest => (true, rest)
  | rest => (false, rest)

/-- Reads the fraction that a number may go on with: its digits, none if there is no point. A point
without a digit after it is an error. -/
def splitFraction : List Char → Option (List Char × List Char)
  | '.' :: rest =>
    let digits := rest.takeWhile Char.isDigit
    if digits.isEmpty then none else some (digits, rest.dropWhile Char.isDigit)
  | rest => some ([], rest)

/-- The exponent written by a sign and digits, with nothing after them. -/
def exponent? (text : List Char) : Option Int :=
  let (negative, digits) :=
    match text with
    | '-' :: digits => (true, digits)
    | '+' :: digits => (false, digits)
    | digits => (false, digits)
  if digits.isEmpty || !digits.all Char.isDigit then none
  else some (if negative then -(Numeral.value digits : Int) else Numeral.value digits)

variable [Numeral.SignRule]

/-- The number that a word is. There is no leading zero before another digit and no leading plus
sign; at most as many digits as a numeral may have stand before the fraction and the exponent. -/
def number? (word : List Char) : Option Value :=
  let (negative, unsigned) := splitSign word
  let whole := unsigned.takeWhile Char.isDigit
  if whole.isEmpty || (whole.head? == some '0' && whole.length != 1) then none
  else if Numeral.maxDigitsBehind negative < whole.length then none
  else
    match splitFraction (unsigned.dropWhile Char.isDigit) with
    | none => none
    | some (fraction, rest) =>
      let digits := Numeral.value (whole ++ fraction)
      match rest with
      | [] =>
        if fraction.isEmpty then some (.integer (if negative then -(digits : Int) else digits))
        else some (.fractional (.decimal negative digits (-(fraction.length : Int))))
      | mark :: rest =>
        if mark == 'e' || mark == 'E' then
          (exponent? rest).map fun exponent =>
            .fractional (.decimal negative digits (exponent - fraction.length))
        else none

/-- The value that a word outside quotes stands for. -/
def Value.ofWord? (word : List Char) : Option Value :=
  if word == "null".toList then some .null
  else if word == "true".toList then some (.bool true)
  else if word == "false".toList then some (.bool false)
  else if word == "NaN".toList then some (.fractional .notANumber)
  else if word == "Infinity".toList then some (.fractional .infinity)
  else if word == "-Infinity".toList then some (.fractional .infinity)
  else number? word

end CounterTrace.Json
