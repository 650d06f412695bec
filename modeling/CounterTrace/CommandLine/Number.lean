import CounterTrace.Text.Blank
import CounterTrace.Text.Digit
import CounterTrace.Text.Numeral

/-!
# Numbers on the command line

A number on the command line may have blanks around it, one sign, and single underscores between its
digits, which may be the decimal digits of any script.

## Main definitions

* `CommandLine.number?` — the integer that an argument stands for
* `CommandLine.looksNegative` — whether an argument with a dash is a number and not an option
-/

namespace CounterTrace.CommandLine

/-- The digits of a numeral in which single underscores may stand between digits, by value. -/
def digitValues? (text : List Char) : Option (List Nat) :=
  let groups := text.splitOn '_'
  if groups.any (·.isEmpty) then none else groups.flatten.mapM Text.digit?

/-- The integer that an argument stands for; none if it is no number or has too many digits. -/
def number? (argument : String) : Option Int :=
  let (negative, unsigned) :=
    match Text.trim argument.toList with
    | '-' :: rest => (true, rest)
    | '+' :: rest => (false, rest)
    | rest => (false, rest)
  match digitValues? unsigned with
  | none => none
  | some digits =>
    if Numeral.maxDigits < digits.length then none
    else
      let n : Nat := digits.foldl (fun n d => 10 * n + d) 0
      some (if negative then -(n : Int) else n)

/-- Whether a text is made of decimal digits of any script. -/
def allDigits (text : List Char) : Bool := text.all fun c => (Text.digit? c).isSome

/-- Whether an argument is a dash before digits, perhaps with a point before the last of them; a
line feed may follow. -/
def looksNegative (argument : String) : Bool :=
  match argument.toList with
  | '-' :: unsigned =>
    let body := if unsigned.getLast? == some '\n' then unsigned.dropLast else unsigned
    let whole := body.takeWhile (· != '.')
    match body.dropWhile (· != '.') with
    | [] => !whole.isEmpty && allDigits whole
    | _ :: fraction => allDigits whole && !fraction.isEmpty && allDigits fraction
  | _ => false

example : number? " +1_0 " = some 10 ∧ number? "-٣" = some (-3) ∧ number? "1__0" = none := by
  decide

end CounterTrace.CommandLine
