/-!
# Usage and help

The texts that explain the command line, laid out for a terminal of eighty columns.

## Main definitions

* `CommandLine.programName` — the name of the program
* `CommandLine.usage` — the usage lines
* `CommandLine.help` — the help text
* `CommandLine.usageError` — the text of an argument error
-/

namespace CounterTrace.CommandLine

/-- The name of the program. -/
def programName : String := "run_ct_writer.py"

/-- The lines that show how the program is called. -/
def usage : String :=
  "usage: run_ct_writer.py [-h] --counters PATH [--metadata PATH]\n" ++
  "                        [--device-id DEVICE_ID] [--root DIR]\n" ++
  "                        [--output-dir DIR] [--log-level \x7bDEBUG,INFO,WARNING\x7d]\n" ++
  "                        [--inspect]\n"

/-- The text that explains every option. -/
def help : String :=
  usage ++
  "\n" ++
  "AIE profile CT file generator\n" ++
  "\n" ++
  "options:\n" ++
  "  -h, --help            show this help message and exit\n" ++
  "  --counters PATH       JSON file with configured counters per device\n" ++
  "  --metadata PATH       JSON file with AIE configuration metadata\n" ++
  "                        (column_shift, row_shift)\n" ++
  "  --device-id DEVICE_ID\n" ++
  "                        Device id\n" ++
  "  --root DIR            Directory searched for control files\n" ++
  "  --output-dir DIR      Directory the CT file is written to\n" ++
  "  --log-level \x7bDEBUG,INFO,WARNING\x7d\n" ++
  "  --inspect             Show control files and counters without writing a CT\n" ++
  "                        file\n" ++
  "\n" ++
  "Examples:\n" ++
  "  python run_ct_writer.py --counters aie_counters.json\n" ++
  "  python run_ct_writer.py --counters aie_counters.json --metadata aie_config.json " ++
  "--root build/\n" ++
  "  python run_ct_writer.py --counters aie_counters.json --inspect\n" ++
  "        \n"

/-- The usage lines with an argument error after them. -/
def usageError (error : String) : String :=
  usage ++ programName ++ ": error: " ++ error ++ "\n"

end CounterTrace.CommandLine
