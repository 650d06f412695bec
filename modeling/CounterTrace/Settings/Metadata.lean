import CounterTrace.Json.Document
import CounterTrace.Settings.Integer

/-!
# Device metadata

What a metadata file says about a device: the two shifts that lay out tile addresses, the hardware
generation, and the numbers of columns and rows where they are known.

## Main definitions

* `Metadata` — the metadata of a device, with the defaults for what a file leaves out
* `Metadata.ofText` — the metadata that a JSON text holds, or its issues
* `Metadata.contains` — whether a tile lies on the device
-/

namespace CounterTrace

/-- The bit at which the column starts in a tile address, unless a file says otherwise. -/
def defaultColumnShift : Int := 25

/-- The bit at which the row starts in a tile address, unless a file says otherwise. -/
def defaultRowShift : Int := 20

/-- The metadata of a device. Unknown numbers of columns and rows bound nothing. -/
structure Metadata where
  columnShift : Int := defaultColumnShift
  rowShift : Int := defaultRowShift
  generation : Option Int := none
  columns : Option Int := none
  rows : Option Int := none
  deriving DecidableEq

namespace Metadata

variable [Numeral.SignRule]

/-- An integer setting with a default; null is no integer. -/
def shiftSetting (members : List (String × Json.Value)) (name : String) (default : Int) :
    Checked Int :=
  match Json.member? members name with
  | none => .ok default
  | some value => (Settings.checkInteger value).within (.member name)

/-- An integer setting that may be unknown: missing or null. -/
def optionalSetting (members : List (String × Json.Value)) (name : String) :
    Checked (Option Int) :=
  match Json.member? members name with
  | none => .ok none
  | some .null => .ok none
  | some value => ((Settings.checkInteger value).within (.member name)).map some

/-- The metadata that a JSON value holds, or the issues of its settings in their fixed order. -/
def ofValue : Json.Value → Checked Metadata
  | .object members =>
    (Checked.both (shiftSetting members "column_shift" defaultColumnShift)
      (Checked.both (shiftSetting members "row_shift" defaultRowShift)
        (Checked.both (optionalSetting members "hw_generation")
          (Checked.both (optionalSetting members "num_columns")
            (optionalSetting members "num_rows"))))).map
      fun (columnShift, rowShift, generation, columns, rows) =>
        ⟨columnShift, rowShift, generation, columns, rows⟩
  | _ => Checked.fail .notRecord

/-- The metadata that a JSON text holds. -/
def ofText (text : List Char) : Checked Metadata :=
  match Json.parse? text with
  | none => Checked.fail .notJson
  | some value => ofValue value

/-- Whether a tile lies within the known numbers of columns and rows. -/
def contains (metadata : Metadata) (column row : Int) : Bool :=
  let within := fun (bound : Option Int) (n : Int) =>
    match bound with
    | none => true
    | some limit => decide (0 ≤ n) && decide (n < limit)
  within metadata.columns column && within metadata.rows row

end Metadata

end CounterTrace
