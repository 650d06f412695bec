import CounterTrace.ControlFile.Markers
import CounterTrace.Script.Save

/-!
# Generation

A generator brings the parts together for one device: it finds the control files, enumerates the
counters, reads the markers, gives each control file the counters on its columns, and saves the
script. It can also collect all of that without writing. Each call looks at the file system afresh.

## Main definitions

* `Generator` — what a generation works with
* `Collection.gather`, `Generator.collect` — control files, counters, and the counters that no file
  owns
* `Generator.script?` — the script, if there is anything to write
* `Generator.generate` — whether the script was written, and the file system after it
-/

namespace CounterTrace

/-- What a generation works with: the counters of all devices, the device, the address layout, where
control files are searched and where the script is put. A missing directory is the working
directory. -/
structure Generator where
  store : CounterStore
  device : Int
  geometry : Geometry
  searchDirectory : Option String
  outputDirectory : Option String

/-- What a collection finds. -/
structure Collection where
  files : List ControlFile
  counters : List Counter
  unassigned : List Counter
  deriving DecidableEq

/-- The control files with their markers and counters, the counters, and those that no control file
owns. The counters are enumerated after the control files have been read. -/
def Collection.gather (files : FileSystem) (searchDirectory : Option String)
    (counters : Report (List Counter)) : Report Collection := do
  let loaded ← ControlFile.load files searchDirectory
  let counters ← counters
  pure ⟨ControlFile.assign loaded counters, counters, ControlFile.unassigned loaded counters⟩

namespace Generator

/-- The path of the script. -/
def outputPath (generator : Generator) (files : FileSystem) : String :=
  Script.outputPath files generator.outputDirectory

/-- The counters of the device. -/
def counters (generator : Generator) : Report (List Counter) :=
  Counter.enumerate generator.geometry generator.store generator.device

/-- What the generator finds, with the counters of its device. -/
def collect (generator : Generator) (files : FileSystem) : Report Collection :=
  Collection.gather files generator.searchDirectory generator.counters

/-- The end of a generation that writes nothing. -/
def nothing (reason : String) : Report (Option String) := do
  Report.tell .debug (reason ++ ". CT file will not be generated.")
  pure none

/-- The script, if there is anything to write: at least one control file, one counter and one
marker. The counters are enumerated only where there is a control file. -/
def script? (files : FileSystem) (searchDirectory : Option String)
    (counters : Report (List Counter)) : Report (Option String) := do
  let found ← ControlFile.discover files searchDirectory
  if found.isEmpty then
    nothing "No aie_runtime_control<id>.asm files found"
  else
    let counters ← counters
    if counters.isEmpty then
      nothing "No AIE counters configured"
    else
      let marked ← ControlFile.withMarkers files found
      if marked.all fun file => file.markers.isEmpty then
        nothing "No SAVE_TIMESTAMPS instructions found in ASM files"
      else
        let text ← Report.ofExcept (Script.renderRead? Script.defaultDataFile
          (ControlFile.assign marked counters) counters)
        pure (some text)

/-- Writes the script if there is one. The result says whether it was written, with the file system
after it. -/
def save (files : FileSystem) (script : Option String) (path : String) :
    Report (Bool × FileSystem) :=
  match script with
  | some text => Script.save files text path
  | none => pure (false, files)

/-- Writes the script for the device, if there is anything to write. The result says whether it was
written, with the file system after it. -/
def generate (generator : Generator) (files : FileSystem) : Report (Bool × FileSystem) := do
  let script ← script? files generator.searchDirectory generator.counters
  save files script (generator.outputPath files)

end Generator

end CounterTrace
