/-!
# Colours

The control sequences that colour text on a terminal.

## Main definitions

* `Colour`, `Colour.code` — the colours and the sequences that switch them on
* `Colour.reset`, `Colour.wrap` — switching colours off, and a text in a colour
-/

namespace CounterTrace

/-- How text is set off on a terminal. -/
inductive Colour where
  | dim
  | cyan
  | green
  | yellow
  | red
  | brightMagenta
  deriving DecidableEq

namespace Colour

/-- The sequence that switches a colour on. -/
def code : Colour → String
  | .dim => "\x1b[2m"
  | .cyan => "\x1b[36m"
  | .green => "\x1b[32m"
  | .yellow => "\x1b[33m"
  | .red => "\x1b[31m"
  | .brightMagenta => "\x1b[35m\x1b[1m"

/-- The sequence that switches all colours off. -/
def reset : String := "\x1b[0m"

/-- A text in a colour, if colours are wanted. -/
def wrap (colour : Colour) (wanted : Bool) (text : String) : String :=
  if wanted then colour.code ++ text ++ reset else text

end Colour

end CounterTrace
