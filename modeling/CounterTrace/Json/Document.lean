import CounterTrace.Json.Token

/-!
# JSON documents

The second half of reading a JSON document: its tokens become one value. The reader keeps the
containers that are open, innermost first, and what may come next; each token is one step. A
document holds exactly one value. At most two hundred containers that are not empty are open at a
time; an empty one may stand inside them.

## Main definitions

* `Json.Frame`, `Json.Reader` — the open containers, and what is due
* `Json.Reader.step` — reading one token
* `Json.parse?` — the value of a text
-/

namespace CounterTrace.Json

/-- An open container in which a value is due: an array with the items before it, or an object with
the members before it and the name of the member. Items and members are reversed. -/
inductive Frame where
  | item (items : List Value)
  | member (members : List (String × Value)) (name : String)

/-- What is due next, and the open containers around it. -/
inductive Reader where
  | item (frames : List Frame)
  | firstItem (frames : List Frame)
  | afterItem (items : List Value) (frames : List Frame)
  | firstName (frames : List Frame)
  | nextName (members : List (String × Value)) (frames : List Frame)
  | colon (members : List (String × Value)) (name : String) (frames : List Frame)
  | afterMember (members : List (String × Value)) (frames : List Frame)
  | complete (result : Value)

/-- The largest number of containers that are open around a value or a name. -/
def maxDepth : Nat := 200

variable [Numeral.SignRule]

namespace Reader

/-- What is due after a value. -/
def put (value : Value) : List Frame → Reader
  | [] => .complete value
  | .item items :: frames => .afterItem (value :: items) frames
  | .member members name :: frames => .afterMember ((name, value) :: members) frames

/-- Reads the first token of a value. -/
def start (frames : List Frame) : Token → Option Reader
  | .openBracket => some (.firstItem frames)
  | .openBrace => some (.firstName frames)
  | .string text => some (put (.string text) frames)
  | .word text => (Value.ofWord? text).map (put · frames)
  | _ => none

/-- Reads one token; none where it may not come next. -/
def step : Reader → Token → Option Reader
  | .item frames, token => start frames token
  | .firstItem frames, .closeBracket => some (put (.array []) frames)
  | .firstItem frames, token =>
    if frames.length < maxDepth then start (.item [] :: frames) token else none
  | .afterItem items frames, .comma => some (.item (.item items :: frames))
  | .afterItem items frames, .closeBracket => some (put (.array items.reverse) frames)
  | .firstName frames, .closeBrace => some (put (.object []) frames)
  | .firstName frames, .string name =>
    if frames.length < maxDepth then some (.colon [] name frames) else none
  | .nextName members frames, .string name => some (.colon members name frames)
  | .colon members name frames, .colon => some (.item (.member members name :: frames))
  | .afterMember members frames, .comma => some (.nextName members frames)
  | .afterMember members frames, .closeBrace => some (put (.object members.reverse) frames)
  | _, _ => none

/-- The value of a complete document. -/
def finish : Reader → Option Value
  | .complete result => some result
  | _ => none

end Reader

/-- The value that the tokens make up. -/
def ofTokens? (tokens : List Token) : Option Value :=
  (tokens.foldlM Reader.step (.item [])).bind Reader.finish

/-- The value of a JSON text, if it is well formed. -/
def parse? (text : List Char) : Option Value :=
  (tokens? text).bind ofTokens?

end CounterTrace.Json
