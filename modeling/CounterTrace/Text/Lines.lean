/-!
# Lines

Two readings of line ends. A control file is cut into lines at the line feed alone, and each line
keeps it; a settings file has the two other line ends, the carriage return with and without a line
feed after it, replaced by the line feed before anything else is read.

## Main definitions

* `Text.lines` — the lines of a text, each with its line feed
* `Text.unifyLineEnds` — the text with the line feed as its only line end
-/

namespace CounterTrace.Text

/-- The lines of a text whose first line has already begun with the reversed `begun`. -/
def linesFrom (begun : List Char) : List Char → List (List Char)
  | [] => if begun.isEmpty then [] else [begun.reverse]
  | c :: rest =>
    if c = '\n' then (c :: begun).reverse :: linesFrom [] rest else linesFrom (c :: begun) rest

/-- The lines of a text in order. Each keeps its line feed, which only the last may lack; the empty
text has no line. -/
def lines (text : List Char) : List (List Char) := linesFrom [] text

/-- The text with each carriage return, and each pair of a carriage return and a line feed, replaced
by one line feed; `result` holds, reversed, what has been read. -/
def unifyLineEndsFrom (result : List Char) : List Char → List Char
  | [] => result.reverse
  | '\r' :: '\n' :: rest => unifyLineEndsFrom ('\n' :: result) rest
  | '\r' :: rest => unifyLineEndsFrom ('\n' :: result) rest
  | c :: rest => unifyLineEndsFrom (c :: result) rest

/-- The text with the line feed as its only line end. -/
def unifyLineEnds (text : List Char) : List Char := unifyLineEndsFrom [] text

theorem linesFrom_flatten (begun text : List Char) :
    (linesFrom begun text).flatten = begun.reverse ++ text := by
  induction text generalizing begun with
  | nil => cases begun <;> simp [linesFrom]
  | cons c rest ih =>
    by_cases end_of_line : c = '\n' <;> simp [linesFrom, end_of_line, ih]

/-- No character is lost or moved by cutting a text into lines. -/
theorem lines_flatten (text : List Char) : (lines text).flatten = text := by
  simp [lines, linesFrom_flatten]

end CounterTrace.Text
