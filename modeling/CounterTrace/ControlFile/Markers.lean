import CounterTrace.ControlFile.Discovery

/-!
# Markers of control files

The markers of a control file are read from its bytes; what is not UTF-8 is replaced and hides no
marker. A file that cannot be opened, or in which an index is too long, is reported with one warning
and counts as a file without markers.

## Main definitions

* `ControlFile.readMarkers` — the markers in the file at a path
* `ControlFile.withMarkers` — control files with their markers filled in
* `ControlFile.load` — the control files under a root with their markers
-/

namespace CounterTrace.ControlFile

/-- The one message about a control file. -/
def markersMessage (path : String) : Except Failure (List Marker) → Message
  | .ok markers =>
    ⟨.debug, "Found " ++ Numeral.text markers.length ++ " SAVE_TIMESTAMPS in " ++ path⟩
  | .error (.access (.refused _ _)) => ⟨.warning, "Unable to open ASM file: " ++ path⟩
  | .error failure =>
    ⟨.warning, "Error parsing SAVE_TIMESTAMPS in " ++ path ++ ": " ++ failure.message⟩

/-- The markers in the file at a path, or why they cannot be read. -/
def markersAt (files : FileSystem) (path : String) : Except Failure (List Marker) :=
  match files.readPermitted path with
  | .error e => .error (.access e)
  | .ok bytes => lexMarkers (Utf8.decodeReplacing bytes)

/-- The markers in the file at a path, none where they cannot be read, and one message. -/
def readMarkers (files : FileSystem) (path : String) : Report (List Marker) :=
  let markers := markersAt files path
  ⟨[markersMessage path markers], .ok (markers.toOption.getD [])⟩

/-- The control files with their markers, and one message for each. -/
def withMarkers (files : FileSystem) : List ControlFile → Report (List ControlFile)
  | [] => pure []
  | file :: rest => do
    let markers ← readMarkers files file.path
    let more ← withMarkers files rest
    pure ({ file with markers := markers } :: more)

/-- The control files under a root with their markers. -/
def load (files : FileSystem) (root : Option String) : Report (List ControlFile) := do
  let found ← discover files root
  withMarkers files found

end CounterTrace.ControlFile
