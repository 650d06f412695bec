import CounterTrace.Marker.Rule
import CounterTrace.Text.Lines

/-!
# Markers

A marker is an instruction in a control file at which counters are read. The lexer reads a listing
line by line and counts the lines; a line gives at most one marker, whose index is the number that
follows the instruction, if one does.

## Main definitions

* `Marker` — a marker with its line and its index
* `Lexer`, `Lexer.feed`, `Lexer.run` — reading one more line, and reading lines afresh
* `lexMarkers` — the markers of a text
-/

namespace CounterTrace

/-- A marker: the number of its line, counted from one, and its index if it has one. -/
structure Marker where
  line : Int
  index : Option Int
  deriving DecidableEq

namespace Marker

/-- The number that is shown for a marker's index; a missing index is shown as minus one. -/
def shownIndex (marker : Marker) : Int := marker.index.getD (-1)

/-- The line that describes a marker. -/
def description (marker : Marker) : String :=
  "MarkerToken(Line:[" ++ Numeral.text marker.line ++ "] , Index:[" ++
    Numeral.text marker.shownIndex ++ "])"

/-- The marker that a rule finds on a numbered line. -/
def onLine (rule : Rule) (number : Nat) (line : List Char) : Except Failure (Option Marker) :=
  match rule.match? line with
  | none => .ok none
  | some found =>
    if found.digits.isEmpty then .ok (some ⟨number, none⟩)
    else (Failure.readNumeral found.digits).map fun index => some ⟨number, some index⟩

end Marker

/-- A lexer between two lines: its rule, how many lines it has read, and the markers of the lines it
was last run on. -/
structure Lexer where
  rule : Rule
  line : Nat
  markers : List Marker
  deriving DecidableEq

namespace Lexer

/-- A lexer that has read nothing. -/
def fresh (rule : Rule) : Lexer := ⟨rule, 0, []⟩

/-- Reads one more line. The line counts even where its index is too long. -/
def feed (lexer : Lexer) (line : List Char) : Lexer × Except Failure (Option Marker) :=
  ({ lexer with line := lexer.line + 1 }, Marker.onLine lexer.rule (lexer.line + 1) line)

/-- Reads lines up to the first failure and keeps their markers after those it has. -/
def runOn (lexer : Lexer) : List (List Char) → Lexer × Except Failure Unit
  | [] => (lexer, .ok ())
  | line :: rest =>
    match lexer.feed line with
    | (next, .error failure) => (next, .error failure)
    | (next, .ok none) => runOn next rest
    | (next, .ok (some marker)) => runOn { next with markers := next.markers ++ [marker] } rest

/-- Reads lines from a fresh start; the result is the markers of all of them. -/
def run (lexer : Lexer) (lines : List (List Char)) : Lexer × Except Failure (List Marker) :=
  match runOn (fresh lexer.rule) lines with
  | (next, .error failure) => (next, .error failure)
  | (next, .ok ()) => (next, .ok next.markers)

end Lexer

/-- The markers of a text, line by line. -/
def lexMarkers (text : List Char) : Except Failure (List Marker) :=
  ((Lexer.fresh .saveTimestamps).run (Text.lines text)).2

example : lexMarkers "x\n save_timestamps\t7\nSAVE_TIMESTAMPS".toList =
    .ok [⟨2, some 7⟩, ⟨3, none⟩] := rfl

end CounterTrace
