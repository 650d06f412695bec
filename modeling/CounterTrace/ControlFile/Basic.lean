import CounterTrace.Counter
import CounterTrace.Marker.Lexer

/-!
# Control files

A control file is the listing of one micro-controller. The identifier in its name fixes the
micro-controller and the four columns that it owns; its markers and its counters are filled in by
the later stages.

## Main definitions

* `ControlFile` — a control file
* `ControlFile.firstColumn`, `ControlFile.lastColumn`, `ControlFile.owns` — its columns
* `ControlFile.isProbed` — whether it gets a probe
* `ControlFile.description`, `ControlFile.description?` — the line that describes it
* `ControlFile.assign`, `ControlFile.unassigned` — dividing counters among control files
-/

namespace CounterTrace

/-- A control file: its path as it was found, its identifier, the markers in it, and the counters on
its columns. -/
structure ControlFile where
  path : String
  id : Int
  markers : List Marker
  counters : List Counter
  deriving DecidableEq

namespace ControlFile

/-- The columns that one control file owns. -/
def columnCount : Int := 4

/-- The control file with a path and an identifier, its markers and counters not yet known. -/
def ofPath (path : String) (id : Int) : ControlFile := ⟨path, id, [], []⟩

/-- The number of the micro-controller that runs the file. -/
def microController (file : ControlFile) : Int := 4 * file.id

/-- The first column that the file owns. -/
def firstColumn (file : ControlFile) : Int := columnCount * file.id

/-- The last column that the file owns. -/
def lastColumn (file : ControlFile) : Int := file.firstColumn + columnCount - 1

/-- The last component of the path. -/
def baseName (file : ControlFile) : String := (Path.ofString file.path).name

/-- Whether the file owns a column. -/
def owns (file : ControlFile) (column : Int) : Bool :=
  decide (file.firstColumn ≤ column) && decide (column ≤ file.lastColumn)

/-- Whether the file gets a probe: it has a marker and a counter. -/
def isProbed (file : ControlFile) : Bool := !file.markers.isEmpty && !file.counters.isEmpty

/-- The line that describes a control file. -/
def description (file : ControlFile) : String :=
  "ASMFileInfo(File:[" ++ file.baseName ++ "] , Id:[" ++ Numeral.text file.id ++ "] , UC:[" ++
    Numeral.text file.microController ++ "] , Columns:[" ++ Numeral.text file.firstColumn ++ "-" ++
    Numeral.text file.lastColumn ++ "] , Timestamps:[" ++ Numeral.text file.markers.length ++
    "] , Counters:[" ++ Numeral.text file.counters.length ++ "])"

/-- The numbers that follow from the identifier: the micro-controller and the two columns. -/
def derivedNumbers (file : ControlFile) : List Int :=
  [file.microController, file.firstColumn, file.lastColumn]

/-- The line that describes a control file, if its numbers are not too long to be written. -/
def description? (file : ControlFile) : Except Failure String :=
  if (file.id :: file.derivedNumbers).all Numeral.isWritable then .ok file.description
  else .error .numberTooLong

/-- The counters on a range of columns, in their order. -/
def onColumns (counters : List Counter) (first last : Int) : List Counter :=
  counters.filter fun counter => decide (first ≤ counter.column) && decide (counter.column ≤ last)

/-- The control files with the counters on their columns, in place of any they had. -/
def assign (files : List ControlFile) (counters : List Counter) : List ControlFile :=
  files.map fun file =>
    { file with counters := onColumns counters file.firstColumn file.lastColumn }

/-- The counters on columns that no control file owns, in their order. -/
def unassigned (files : List ControlFile) (counters : List Counter) : List Counter :=
  counters.filter fun counter => !files.any fun file => file.owns counter.column

end ControlFile

end CounterTrace
