import CounterTrace.Message
import CounterTrace.Script.Render

/-!
# Saving the script

The script is written whole or not at all: its text is complete before the file is opened, and a
file that cannot be opened is reported and left as it is.

## Main definitions

* `Script.fileName`, `Script.outputPath` — where a run puts the script
* `Script.save` — the file system after the script has been saved
-/

namespace CounterTrace.Script

/-- The name of the script in its directory. -/
def fileName : String := "aie_profile.ct"

/-- The path of the script in a directory, or in the working directory if none is given. -/
def outputPath (files : FileSystem) (directory : Option String) : String :=
  ((Path.ofString (directory.getD files.workingPath)).child fileName).text

/-- Writes the script to a path. The result says whether it was written, with the file system after
it. -/
def save (files : FileSystem) (script path : String) : Report (Bool × FileSystem) :=
  let tidy := (Path.ofString path).text
  match files.write tidy (Utf8.encode script.toList) with
  | .ok written => do
    Report.tell .info ("Generated CT file: " ++ tidy)
    pure (true, written)
  | .error .nullCharacter => Report.ofExcept (.error (.access .nullCharacter))
  | .error (.refused _ _) => do
    Report.tell .warning ("Unable to create CT file: " ++ tidy)
    pure (false, files)

end CounterTrace.Script
