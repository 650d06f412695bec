/-!
# Columns

Filling a text up to the width of a column. A text that is wider stays whole.

## Main definitions

* `Text.alignLeft` — blanks after the text
* `Text.alignRight` — blanks before the text
-/

namespace CounterTrace.Text

/-- The text followed by as many spaces as the width still has room for. -/
def alignLeft (width : Nat) (text : String) : String :=
  text ++ String.ofList (List.replicate (width - text.length) ' ')

/-- The text behind as many spaces as the width still has room for. -/
def alignRight (width : Nat) (text : String) : String :=
  String.ofList (List.replicate (width - text.length) ' ') ++ text

end CounterTrace.Text
