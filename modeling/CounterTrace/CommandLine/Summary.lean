import CounterTrace.Text.Colour
import CounterTrace.Text.Column
import CounterTrace.Workflow

/-!
# Summaries

What the program prints about an inspection: a table of the control files, a table of the counters,
and the notes about counters and files that need attention.

## Main definitions

* `CommandLine.fileRow`, `CommandLine.counterRow` — the rows of the two tables
* `CommandLine.summary` — the lines of an inspection
-/

namespace CounterTrace.CommandLine

/-- The line between the head of a table and its rows. -/
def rule : String := String.ofList (List.replicate 60 '-')

/-- The row of a control file. -/
def fileRow (coloured : Bool) (file : ControlFile) : String :=
  let lines := Script.markerLines file
  let status :=
    if file.isProbed then Colour.green.wrap coloured "probe" else Colour.dim.wrap coloured "skip"
  "  " ++ Text.alignLeft 32 file.baseName ++
    " uc" ++ Text.alignLeft 4 (Numeral.text file.microController) ++
    " cols " ++ Text.alignRight 3 (Numeral.text file.firstColumn) ++ "-" ++
    Text.alignLeft 3 (Numeral.text file.lastColumn) ++
    " lines " ++ Text.alignLeft 16 (if lines.isEmpty then "-" else lines) ++
    " counters " ++ Text.alignLeft 3 (Numeral.text file.counters.length) ++ " " ++ status

/-- The row of a counter. -/
def counterRow (counter : Counter) : String :=
  "  col " ++ Text.alignRight 3 (Numeral.text counter.column) ++
    " row " ++ Text.alignRight 3 (Numeral.text counter.row) ++
    " ctr " ++ Text.alignRight 2 (Numeral.text counter.number) ++ " " ++
    Text.alignLeft 16 counter.module ++ " " ++ counter.addressText

/-- The table of the control files. -/
def fileTable (coloured : Bool) (files : List ControlFile) : List String :=
  [Colour.cyan.wrap coloured "\nControl Files", rule] ++
    if files.isEmpty then [Colour.dim.wrap coloured "  none found"]
    else files.map (fileRow coloured)

/-- The table of the counters; where there are none, the devices that have some are named. -/
def counterTable (coloured : Bool) (inspection : Inspection) : List String :=
  let devices := String.intercalate ", " (inspection.devices.map Numeral.text)
  [Colour.cyan.wrap coloured "\nCounters", rule] ++
    if inspection.counters.isEmpty then
      [Colour.dim.wrap coloured
        ("  none configured (devices in counter file: " ++
          (if devices.isEmpty then "none" else devices) ++ ")")]
    else inspection.counters.map counterRow

/-- A note on how many counters are out of place, if there are any. -/
def countNote (coloured : Bool) (before after : String) (counters : List Counter) : List String :=
  if counters.isEmpty then []
  else
    [Colour.yellow.wrap coloured
      (before ++ Numeral.text counters.length ++ " counter(s) outside " ++ after)]

/-- The lines of an inspection. -/
def summary (coloured : Bool) (inspection : Inspection) : List String :=
  fileTable coloured inspection.files ++ counterTable coloured inspection ++
    countNote coloured "\n" "every control file range" inspection.unassigned ++
    countNote coloured "" "the device dimensions" inspection.outOfBounds ++
    inspection.warnings.map fun warning => Colour.yellow.wrap coloured ("warning: " ++ warning)

end CounterTrace.CommandLine
