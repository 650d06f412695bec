/-!
# Issues in a settings file

A settings file that is not what it should be is refused with a list of issues, one for each value
at fault, in the order of the document. Each issue says what is wrong and where.

## Main definitions

* `Problem` — what is wrong with a value
* `Issue` — a problem and the way to the value
* `Checked` — a value, or all issues found in it
* `Checked.both`, `Checked.all` — collecting issues from several parts
-/

namespace CounterTrace

/-- What is wrong with a value of a settings file. -/
inductive Problem where
  | notJson
  | notMapping
  | notRecord
  | notArray
  | missing
  | notText
  | notInteger
  | unreadableInteger
  | fractionalInteger
  | notFinite
  | integerTooLarge
  deriving DecidableEq

/-- The short name of a problem. -/
def Problem.code : Problem → String
  | .notJson => "json_invalid"
  | .notMapping => "dict_type"
  | .notRecord => "model_type"
  | .notArray => "list_type"
  | .missing => "missing"
  | .notText => "string_type"
  | .notInteger => "int_type"
  | .unreadableInteger => "int_parsing"
  | .fractionalInteger => "int_from_float"
  | .notFinite => "finite_number"
  | .integerTooLarge => "int_parsing_size"

/-- The sentence that explains a problem. -/
def Problem.explanation : Problem → String
  | .notJson => "Invalid JSON"
  | .notMapping => "Input should be an object"
  | .notRecord => "Input should be an object"
  | .notArray => "Input should be a valid array"
  | .missing => "Field required"
  | .notText => "Input should be a valid string"
  | .notInteger => "Input should be a valid integer"
  | .unreadableInteger =>
    "Input should be a valid integer, unable to parse string as an integer"
  | .fractionalInteger =>
    "Input should be a valid integer, got a number with a fractional part"
  | .notFinite => "Input should be a finite number"
  | .integerTooLarge => "Unable to parse input string as an integer, exceeded maximum size"

/-- One step on the way to a value: the name of a member or the index of an item. -/
inductive Place where
  | member (name : String)
  | item (index : Nat)
  deriving DecidableEq

/-- A problem and the way from the whole document to the value that has it. -/
structure Issue where
  problem : Problem
  way : List Place
  deriving DecidableEq

/-- A value, or the issues found in it. -/
abbrev Checked (α : Type) := Except (List Issue) α

namespace Checked

/-- The only issue of a value, at the value itself. -/
def fail {α : Type} (problem : Problem) : Checked α := .error [⟨problem, []⟩]

/-- The check of a part, with the way to the part in front of each issue. -/
def within {α : Type} (place : Place) : Checked α → Checked α
  | .ok a => .ok a
  | .error issues => .error (issues.map fun issue => ⟨issue.problem, place :: issue.way⟩)

/-- Two parts together: both values, or the issues of both in order. -/
def both {α β : Type} : Checked α → Checked β → Checked (α × β)
  | .ok a, .ok b => .ok (a, b)
  | .ok _, .error issues => .error issues
  | .error issues, .ok _ => .error issues
  | .error issues, .error more => .error (issues ++ more)

/-- All parts together: their values in order, or the issues of all in order. -/
def all {α : Type} : List (Checked α) → Checked (List α)
  | [] => .ok []
  | part :: rest => (both part (all rest)).map fun (a, values) => a :: values

end Checked

end CounterTrace
