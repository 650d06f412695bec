import CounterTrace.Text.Printable

/-!
# Quoted text

The form in which a path or an argument is shown inside an error message: between quotes, on one
line, with every character that has no visible form written as an escape.

## Main definitions

* `Text.quoteMark` — the quote chosen for a text
* `Text.quoted` — the quoted form
-/

namespace CounterTrace.Text

/-- Lowercase hexadecimal digits of a number, filled up with zeros to a width. -/
def hexDigits (width n : Nat) : List Char :=
  (Nat.toDigits 16 n).leftpad width '0'

/-- Single quotes, unless the text holds one and no double quote. -/
def quoteMark (text : List Char) : Char :=
  if text.contains '\'' && !text.contains '"' then '"' else '\''

/-- How one character stands between the given quotes: the backslash and the quote in use behind a
backslash, the three common control characters by letter, a character without a visible form by its
code point in the shortest of three widths, and any other as itself. -/
def quotedChar (mark c : Char) : List Char :=
  if c == '\\' || c == mark then ['\\', c]
  else if c == '\n' then ['\\', 'n']
  else if c == '\r' then ['\\', 'r']
  else if c == '\t' then ['\\', 't']
  else if isPrintable c then [c]
  else if c.toNat < 0x100 then '\\' :: 'x' :: hexDigits 2 c.toNat
  else if c.toNat < 0x10000 then '\\' :: 'u' :: hexDigits 4 c.toNat
  else '\\' :: 'U' :: hexDigits 8 c.toNat

/-- The text between quotes on one line. -/
def quoted (text : String) : String :=
  let mark := quoteMark text.toList
  String.ofList (mark :: text.toList.flatMap (quotedChar mark) ++ [mark])

end CounterTrace.Text
