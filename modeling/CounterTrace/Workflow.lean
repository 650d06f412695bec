import CounterTrace.Generator
import CounterTrace.Request
import CounterTrace.Settings.Load

/-!
# Workflows

The two ways to use the library on files: to generate the script, and to inspect what a generation
would use. Both load the metadata first, if there are any, and then the counters. A value that the
request lacks is an error where it is needed: a settings path when the file is opened, the directory
to search after that, the device when its counters are enumerated, and the directory of the script
when the generation is over.

## Main definitions

* `Workflow.load` — the metadata and the counters that the settings files describe
* `Workflow.generate` — the outcome of a generation, and the file system after it
* `Workflow.inspect` — everything a generation would use
-/

namespace CounterTrace

/-- The outcome of a generation: whether the script was written, and its path. -/
structure Generation where
  generated : Bool
  path : String
  device : OptionValue Int
  deriving DecidableEq

/-- What a generation would use, and what is noteworthy about it. -/
structure Inspection where
  files : List ControlFile
  counters : List Counter
  unassigned : List Counter
  outOfBounds : List Counter
  warnings : List String
  devices : List Int
  deriving DecidableEq

namespace Inspection

/-- The control files that get a probe. -/
def probed (inspection : Inspection) : List ControlFile :=
  inspection.files.filter (·.isProbed)

end Inspection

namespace Workflow

variable [Numeral.SignRule]

/-- The metadata at a path, or the default ones where no path is given. -/
def loadMetadata (files : FileSystem) : Option String → Except Failure Metadata
  | none => .ok {}
  | some path => Metadata.load files path

/-- The metadata and the counters that a request names. -/
def load (files : FileSystem) (request : Request) : Except Failure (Metadata × CounterStore) := do
  let metadata ← loadMetadata files (← optionalPath request.metadata)
  let store ← CounterStore.load files (← request.counters.path)
  pure (metadata, store)

/-- The counters of the device that a request names. -/
def counters (request : Request) (metadata : Metadata) (store : CounterStore) :
    Report (List Counter) :=
  match request.device with
  | .value device => Counter.enumerate metadata.geometry store device
  | .void => Report.ofExcept (.error .deviceMissing)

/-- Generates the script of a request. -/
def generate (files : FileSystem) (request : Request) : Report (Generation × FileSystem) := do
  let (metadata, store) ← Report.ofExcept (load files request)
  let searchDirectory ← Report.ofExcept (optionalPath request.searchDirectory)
  let script ← Generator.script? files searchDirectory (counters request metadata store)
  let outputDirectory ← Report.ofExcept (optionalPath request.outputDirectory)
  let path := Script.outputPath files outputDirectory
  let (generated, after) ← Generator.save files script path
  pure (⟨generated, path, request.device⟩, after)

/-- The inspection that a collection amounts to. -/
def inspection (metadata : Metadata) (store : CounterStore) (collection : Collection)
    (messages : List Message) : Inspection where
  files := collection.files
  counters := collection.counters
  unassigned := collection.unassigned
  outOfBounds :=
    collection.counters.filter fun counter => !metadata.contains counter.column counter.row
  warnings := Message.texts messages (some .warning)
  devices := store.devices

/-- Inspects what a generation for a request would use. Its messages are not passed on; the warnings
among them are part of the inspection. -/
def inspect (files : FileSystem) (request : Request) : Except Failure Inspection := do
  let (metadata, store) ← load files request
  let searchDirectory ← optionalPath request.searchDirectory
  let report := Collection.gather files searchDirectory (counters request metadata store)
  let collection ← report.result
  pure (inspection metadata store collection report.messages)

end Workflow

end CounterTrace
