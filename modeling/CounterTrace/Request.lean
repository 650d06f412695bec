import CounterTrace.Failure

/-!
# Requests

What a workflow is asked for: the settings files, the device, and where to search and to write. On
the command line an option can be given with no value, by the separator in the place of one. A
request keeps such an option, and the workflow fails only where it needs the value.

That the separator behind an equals sign stands for no value is so in some patch releases of the
argument parser only; in others it is the value itself, and no option is given without one.

## Main definitions

* `OptionValue` — what an option was given: a value, or none
* `OptionValue.path`, `optionalPath` — the value of an option that names a path
* `Request` — which files and which device a workflow is about
-/

namespace CounterTrace

/-- What an option was given: a value, or none. The second is possible only with an argument parser
that drops the separator behind an equals sign. -/
inductive OptionValue (α : Type) where
  | value (a : α)
  | void
  deriving DecidableEq

namespace OptionValue

/-- The value, if there is one. -/
def toOption {α : Type} : OptionValue α → Option α
  | .value a => some a
  | .void => none

/-- The value of an option that names a path. -/
def path : OptionValue String → Except Failure String
  | .value path => .ok path
  | .void => .error .pathMissing

end OptionValue

/-- The path of an option that may be left out. -/
def optionalPath : Option (OptionValue String) → Except Failure (Option String)
  | none => .ok none
  | some option => option.path.map some

/-- Which files and which device a workflow is about. -/
structure Request where
  counters : OptionValue String
  metadata : Option (OptionValue String)
  device : OptionValue Int
  searchDirectory : Option (OptionValue String)
  outputDirectory : Option (OptionValue String)
  deriving DecidableEq

end CounterTrace
