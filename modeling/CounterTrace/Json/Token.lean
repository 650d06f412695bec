import CounterTrace.Json.Value

/-!
# JSON tokens

The first half of reading a JSON document: its characters become tokens. Blanks stand between tokens
and are dropped; a string is one token with its escapes resolved; digits, letters, signs and points
that stand together are one word, whose meaning is decided later.

## Main definitions

* `Json.Token` — the tokens
* `Json.Scanner.step` — reading one character
* `Json.tokens?` — the tokens of a text
-/

namespace CounterTrace.Json

/-- A token of a JSON document. -/
inductive Token where
  | openBrace
  | closeBrace
  | openBracket
  | closeBracket
  | comma
  | colon
  | string (text : String)
  | word (text : List Char)
  deriving DecidableEq

/-- Where the scanner stands: between tokens, in a word, in a string, behind a backslash in a
string, or in the four digits of a code unit. The characters of the unfinished token are kept
reversed; `high` is the first half of a surrogate pair whose second half must follow. -/
inductive Mode where
  | between
  | word (text : List Char)
  | string (text : List Char) (high : Option Nat)
  | escape (text : List Char) (high : Option Nat)
  | unit (text : List Char) (high : Option Nat) (count value : Nat)

/-- The scanner between two characters: where it stands and the tokens so far, reversed. -/
structure Scanner where
  mode : Mode
  tokens : List Token

/-- The four blanks of JSON. -/
def isJsonBlank (c : Char) : Bool :=
  c == ' ' || c == '\t' || c == '\n' || c == '\r'

/-- The characters of numbers and names. -/
def isWordChar (c : Char) : Bool :=
  c.isAlphanum || c == '+' || c == '-' || c == '.'

/-- The character that a letter behind a backslash stands for. -/
def escaped? : Char → Option Char
  | '"' => some '"'
  | '\\' => some '\\'
  | '/' => some '/'
  | 'b' => some '\x08'
  | 'f' => some '\x0c'
  | 'n' => some '\n'
  | 'r' => some '\r'
  | 't' => some '\t'
  | _ => none

/-- The value of a hexadecimal digit of either case. -/
def hexDigit? (c : Char) : Option Nat :=
  if c.isDigit then some (c.toNat - 48)
  else if 'a' ≤ c ∧ c ≤ 'f' then some (c.toNat - 87)
  else if 'A' ≤ c ∧ c ≤ 'F' then some (c.toNat - 55)
  else none

/-- The string after a code unit: half of a surrogate pair waits for the other half, and a half
without the other is an error. -/
def endUnit (text : List Char) (high : Option Nat) (unit : Nat) : Option Mode :=
  let isHigh := 0xD800 ≤ unit && unit < 0xDC00
  let isLow := 0xDC00 ≤ unit && unit < 0xE000
  match high with
  | some first =>
    if isLow then
      some (.string (Char.ofNat (0x10000 + (first - 0xD800) * 0x400 + (unit - 0xDC00)) :: text)
        none)
    else none
  | none =>
    if isHigh then some (.string text (some unit))
    else if isLow then none
    else some (.string (Char.ofNat unit :: text) none)

namespace Scanner

/-- Reads a character that does not belong to the token before it. -/
def start (tokens : List Token) (c : Char) : Option Scanner :=
  if isJsonBlank c then some ⟨.between, tokens⟩
  else if c == '\x7b' then some ⟨.between, .openBrace :: tokens⟩
  else if c == '\x7d' then some ⟨.between, .closeBrace :: tokens⟩
  else if c == '[' then some ⟨.between, .openBracket :: tokens⟩
  else if c == ']' then some ⟨.between, .closeBracket :: tokens⟩
  else if c == ',' then some ⟨.between, .comma :: tokens⟩
  else if c == ':' then some ⟨.between, .colon :: tokens⟩
  else if c == '"' then some ⟨.string [] none, tokens⟩
  else if isWordChar c then some ⟨.word [c], tokens⟩
  else none

/-- Reads one character; none where the text is no JSON. -/
def step (scanner : Scanner) (c : Char) : Option Scanner :=
  match scanner.mode with
  | .between => start scanner.tokens c
  | .word text =>
    if isWordChar c then some ⟨.word (c :: text), scanner.tokens⟩
    else start (.word text.reverse :: scanner.tokens) c
  | .string text high =>
    if c == '\\' then some ⟨.escape text high, scanner.tokens⟩
    else if high.isSome || c.toNat < 0x20 then none
    else if c == '"' then
      some ⟨.between, .string (String.ofList text.reverse) :: scanner.tokens⟩
    else some ⟨.string (c :: text) none, scanner.tokens⟩
  | .escape text high =>
    if c == 'u' then some ⟨.unit text high 0 0, scanner.tokens⟩
    else if high.isSome then none
    else (escaped? c).map fun e => ⟨.string (e :: text) none, scanner.tokens⟩
  | .unit text high count value =>
    match hexDigit? c with
    | none => none
    | some digit =>
      if count < 3 then some ⟨.unit text high (count + 1) (16 * value + digit), scanner.tokens⟩
      else (endUnit text high (16 * value + digit)).map fun mode => ⟨mode, scanner.tokens⟩

/-- The tokens in order; an unfinished string is an error. -/
def finish (scanner : Scanner) : Option (List Token) :=
  match scanner.mode with
  | .between => some scanner.tokens.reverse
  | .word text => some (.word text.reverse :: scanner.tokens).reverse
  | _ => none

end Scanner

/-- The tokens of a text, if it can be cut into tokens. -/
def tokens? (text : List Char) : Option (List Token) :=
  (text.foldlM Scanner.step ⟨.between, []⟩).bind Scanner.finish

end CounterTrace.Json
