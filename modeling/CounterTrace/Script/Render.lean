import CounterTrace.ControlFile.Basic

/-!
# The script

The instrumentation script is text for the tracing engine. Its begin block lists every counter, one
probe block for each probed control file reads that file's counters, and the end block writes what
was collected. The text depends on nothing but the control files and the counters.

## Main definitions

* `Script.counterEntry`, `Script.beginBlock` — the counters as a list of records
* `Script.declaration`, `Script.probeBlock` — the probe of a control file
* `Script.endBlock` — the end block with the name of the data file
* `Script.render` — the whole text
* `Script.render?`, `Script.renderRead?` — the same, where no number in it is too long to be written
-/

namespace CounterTrace.Script

/-- The name of the data file that the script writes unless another is asked for. -/
def defaultDataFile : String := "aie_profile_counters.json"

/-- The line that opens a block of host code. -/
def blockOpen : String := "@blockopen"

/-- The line that closes a block of host code. -/
def blockClose : String := "@blockclose"

/-- The lines at the top of the script. -/
def header : List String :=
  ["# Auto-generated CT file for AIE Profile counters",
    "# Generated by XRT AIE Profile Plugin",
    ""]

/-- The record of a counter. The name of the module stands in it as it was given. -/
def counterEntry (counter : Counter) : String :=
  "        \x7b\"column\": " ++ Numeral.text counter.column ++
    ", \"row\": " ++ Numeral.text counter.row ++
    ", \"counter\": " ++ Numeral.text counter.number ++
    ", \"module\": \"" ++ counter.module ++
    "\", \"address\": \"" ++ counter.addressText ++ "\"\x7d"

/-- The records of the counters, a comma after each but the last. -/
def counterEntries : List Counter → List String
  | [] => []
  | [last] => [counterEntry last]
  | counter :: rest => (counterEntry counter ++ ",") :: counterEntries rest

/-- The begin block: it starts the clock and lists all counters. -/
def beginBlock (counters : List Counter) : List String :=
  ["begin",
    "\x7b",
    "    ts_start = timestamp32()",
    "    print(\"\\nAIE Profile tracing started\\n\")",
    blockOpen,
    "import json",
    "import os",
    "",
    "# Initialize data collection",
    "profile_data = \x7b",
    "    \"start_timestamp\": ts_start,",
    "    \"counter_metadata\": ["] ++
  counterEntries counters ++
  ["    ],",
    "    \"probes\": []",
    "\x7d",
    blockClose,
    "\x7d",
    ""]

/-- The numbers of the marker lines of a control file, with commas between them. -/
def markerLines (file : ControlFile) : String :=
  String.intercalate "," (file.markers.map fun marker => Numeral.text marker.line)

/-- The line that declares the probe of a control file. -/
def declaration (file : ControlFile) : String :=
  "jprobe:" ++ file.baseName ++ ":uc" ++ Numeral.text file.microController ++ ":line" ++
    markerLines file

/-- The variable that takes the value of the counter at a position. -/
def counterVariable (position : Nat) : String := "ctr_" ++ Numeral.text position

/-- The line that reads the counter at a position. -/
def readLine (counter : Counter) (position : Nat) : String :=
  "    " ++ counterVariable position ++ " = read_reg(" ++ counter.addressText ++ ")"

/-- The probe block of a control file: it reads the file's counters in order and records them. -/
def probeBlock (file : ControlFile) : List String :=
  ["# Probes for " ++ file.baseName ++ " (columns " ++ Numeral.text file.firstColumn ++ "-" ++
      Numeral.text file.lastColumn ++ ")",
    declaration file,
    "\x7b",
    "    ts = timestamp32()"] ++
  (file.counters.zipIdx.map fun (counter, position) => readLine counter position) ++
  ["    print(f\"Probe fired: ts=\x7bts\x7d\")",
    blockOpen,
    "profile_data[\"probes\"].append(\x7b",
    "    \"asm_file\": \"" ++ file.baseName ++ "\",",
    "    \"timestamp\": ts,",
    "    \"counters\": [" ++
      String.intercalate ", " ((List.range file.counters.length).map counterVariable) ++ "]",
    "\x7d)",
    blockClose,
    "\x7d",
    ""]

/-- The end block: it stops the clock and writes the data file. -/
def endBlock (dataFile : String) : List String :=
  ["end",
    "\x7b",
    "    ts_end = timestamp32()",
    "    print(\"\\nAIE Profile tracing ended\\n\")",
    blockOpen,
    "profile_data[\"end_timestamp\"] = ts_end",
    "profile_data[\"total_time\"] = ts_end - profile_data[\"start_timestamp\"]",
    "",
    "output_path = os.path.join(os.getcwd(), \"" ++ dataFile ++ "\")",
    "with open(output_path, \"w\") as f:",
    "    json.dump(profile_data, f, indent=2)",
    "print(f\"Profile data written to \x7boutput_path\x7d\")",
    blockClose,
    "\x7d"]

/-- The lines of the script. -/
def scriptLines (dataFile : String) (files : List ControlFile) (counters : List Counter) :
    List String :=
  header ++ beginBlock counters ++ (files.filter (·.isProbed)).flatMap probeBlock ++
    endBlock dataFile

/-- The text of the script: its lines, each ended by a line feed. -/
def render (dataFile : String) (files : List ControlFile) (counters : List Counter) : String :=
  String.intercalate "\n" (scriptLines dataFile files counters) ++ "\n"

/-- The numbers in the record of a counter. -/
def entryNumbers (counter : Counter) : List Int := [counter.column, counter.row, counter.number]

/-- The numbers in the script that come from the inputs: those of the counters, and those that
follow from the identifiers of the probed control files. -/
def takenNumbers (files : List ControlFile) (counters : List Counter) : List Int :=
  counters.flatMap entryNumbers ++
    (files.filter (·.isProbed)).flatMap ControlFile.derivedNumbers

/-- The numbers of marker lines in the script. -/
def lineNumbers (files : List ControlFile) : List Int :=
  (files.filter (·.isProbed)).flatMap fun file => file.markers.map (·.line)

/-- The text of the script, if none of some numbers in it is too long to be written. -/
def renderWithin (numbers : List Int) (dataFile : String) (files : List ControlFile)
    (counters : List Counter) : Except Failure String :=
  if numbers.all Numeral.isWritable then .ok (render dataFile files counters)
  else .error .numberTooLong

/-- The text of the script, if none of its numbers is too long to be written. -/
def render? (dataFile : String) (files : List ControlFile) (counters : List Counter) :
    Except Failure String :=
  renderWithin (takenNumbers files counters ++ lineNumbers files) dataFile files counters

/-- The text of the script for control files that have been read. Their marker lines have been
counted, and a count is never too long. -/
def renderRead? (dataFile : String) (files : List ControlFile) (counters : List Counter) :
    Except Failure String :=
  renderWithin (takenNumbers files counters) dataFile files counters

end CounterTrace.Script
