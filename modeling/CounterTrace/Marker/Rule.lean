import CounterTrace.Failure
import CounterTrace.Text.Blank

/-!
# Lexing rules

Two rules recognise what matters in control files. The name rule covers a whole text: the common
stem, an identifier of at least one digit, and the ending. The marker rule searches a text for the
instruction word in any ASCII letter case and takes the blanks and the digits that follow it.

## Main definitions

* `Rule`, `Rule.match?` — the rules, and the match of a rule in a text
* `Match` — where a match begins and ends, and the digits in it
* `controlFileId?` — the identifier in the name of a control file
-/

namespace CounterTrace

/-- A lexing rule. -/
inductive Rule where
  | fileName
  | saveTimestamps
  deriving DecidableEq

/-- A match: the positions where it begins and where it ends, and the digits it captures. -/
structure Match where
  start : Nat
  stop : Nat
  digits : List Char
  deriving DecidableEq

namespace Rule

/-- What follows an expected text at the front of a text, character by character under a
comparison. -/
def after? (same : Char → Char → Bool) : List Char → List Char → Option (List Char)
  | [], text => some text
  | _ :: _, [] => none
  | expected :: more, c :: text => if same expected c then after? same more text else none

/-- The stem of a control file's name. -/
def stem : List Char := "aie_runtime_control".toList

/-- The ending of a control file's name. -/
def ending : List Char := ".asm".toList

/-- The word of the marker instruction. -/
def instruction : List Char := "SAVE_TIMESTAMPS".toList

/-- Whether a character is an expected uppercase one in either ASCII letter case. -/
def sameLetter (expected c : Char) : Bool := c.toUpper == expected

/-- The match of the name rule, which covers the whole text. -/
def matchName? (text : List Char) : Option Match :=
  match after? (· == ·) stem text with
  | none => none
  | some rest =>
    let digits := rest.takeWhile Char.isDigit
    if !digits.isEmpty && rest.dropWhile Char.isDigit == ending then
      some ⟨0, text.length, digits⟩
    else none

/-- The match of the marker rule at the front of a text that begins at a position. -/
def markerAt? (position : Nat) (text : List Char) : Option Match :=
  match after? sameLetter instruction text with
  | none => none
  | some rest =>
    let blanks := rest.takeWhile Text.isAsciiBlank
    let digits := (rest.dropWhile Text.isAsciiBlank).takeWhile Char.isDigit
    some ⟨position, position + instruction.length + blanks.length + digits.length, digits⟩

/-- The first match of the marker rule in a text that begins at a position. -/
def findMarker? (position : Nat) : List Char → Option Match
  | [] => none
  | c :: text =>
    match markerAt? position (c :: text) with
    | some found => some found
    | none => findMarker? (position + 1) text

/-- The match of a rule in a text. -/
def match? : Rule → List Char → Option Match
  | .fileName, text => matchName? text
  | .saveTimestamps, text => findMarker? 0 text

/-- The name of a rule. -/
def name : Rule → String
  | .fileName => "filename"
  | .saveTimestamps => "save_timestamps"

/-- The rule as a pattern. -/
def pattern : Rule → String
  | .fileName => "aie_runtime_control(\\d+)\\.asm"
  | .saveTimestamps => "SAVE_TIMESTAMPS\\s*(\\d*)"

/-- The line that describes a rule. -/
def description (rule : Rule) : String :=
  "LexRule(Name:[" ++ rule.name ++ "] , Pattern:[" ++ rule.pattern ++ "])"

end Rule

/-- The identifier in the name of a control file; none for any other name. An identifier with too
many digits is a failure. -/
def controlFileId? (name : String) : Except Failure (Option Nat) :=
  match Rule.matchName? name.toList with
  | none => .ok none
  | some found => (Failure.readNumeral found.digits).map some

end CounterTrace
