import CounterTrace.Failure
import CounterTrace.Settings.CounterStore
import CounterTrace.Settings.Metadata
import CounterTrace.Text.Lines

/-!
# Loading settings files

A settings file is read whole: its bytes must be UTF-8, its line ends are unified, and its text must
be a JSON document of the right form. The first of these that fails decides the failure. That a
settings file cannot be opened because it may not be is left out: it is read at a barred place too.

## Main definitions

* `Settings.readText` — the text of a file
* `CounterStore.load`, `Metadata.load` — the settings in a file
-/

namespace CounterTrace

/-- The text of a settings file with unified line ends. Barred places are not looked at. -/
def Settings.readText (files : FileSystem) (path : String) : Except Failure (List Char) :=
  match files.read path with
  | .error e => .error (.access e)
  | .ok bytes =>
    match Utf8.decode bytes with
    | .error fault => .error (.undecodable fault)
    | .ok text => .ok (Text.unifyLineEnds text)

variable [Numeral.SignRule]

/-- The counter store that a JSON text holds. -/
def CounterStore.parse (text : List Char) : Except Failure CounterStore :=
  (ofText text).mapError (.invalid .counters)

/-- The metadata that a JSON text holds. -/
def Metadata.parse (text : List Char) : Except Failure Metadata :=
  (ofText text).mapError (.invalid .metadata)

/-- The counter store in a file. -/
def CounterStore.load (files : FileSystem) (path : String) : Except Failure CounterStore :=
  (Settings.readText files path).bind CounterStore.parse

/-- The metadata in a file. -/
def Metadata.load (files : FileSystem) (path : String) : Except Failure Metadata :=
  (Settings.readText files path).bind Metadata.parse

end CounterTrace
