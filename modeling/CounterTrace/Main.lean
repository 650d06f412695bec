import CounterTrace.CommandLine.Program
import CounterTrace.FileSystem.Edit

/-!
# The executable

The outer layer of the program. It takes an image of the files that a run looks at, lets the run
work on the image, writes the script that the run has left in it, and prints what the run printed.
A file or directory that cannot be read is barred in the image; if the script cannot be written its
place is barred too, and the run is made again.

## Main definitions

* `Image.directory`, `Image.settings`, `Image.destination` — reading parts of the real file system
  into an image
* `main` — the executable
-/

namespace CounterTrace.Image

/-- The image with a barred path. -/
def bar (files : FileSystem) (path : String) : FileSystem :=
  { files with barred := files.lexical path :: files.barred }

/-- The bytes of the file at a path, if it can be read. -/
def bytes? (path : String) : IO (Option (List UInt8)) := do
  try
    return some (← IO.FS.readBinFile ((← IO.currentDir) / path)).toList
  catch _ => return none

/-- The image with the control file at a path. -/
def controlFile (files : FileSystem) (path : String) : IO FileSystem := do
  match ← bytes? path with
  | some bytes => return (files.addFile path bytes).files
  | none => return bar (files.addFile path []).files path

/-- The image with the directory at a path and all below it. Links to directories are not entered,
and a link that leads nowhere leads back to itself. -/
partial def directory (files : FileSystem) (path : String) : IO FileSystem := do
  let files := (files.makeDirectories path).files
  let entries ←
    try
      pure (some (← ((← IO.currentDir) / path).readDir))
    catch _ => pure none
  match entries with
  | none => return bar files path
  | some entries =>
    let mut files := files
    for entry in entries do
      let below := Path.join path entry.fileName
      let isLink := (← entry.path.symlinkMetadata).type == .symlink
      if ← entry.path.isDir then
        files ← if isLink then pure (files.addLink below "/").files
          else directory files below
      else if ← entry.path.pathExists then
        files ← if (controlFileId? entry.fileName).toOption.join.isSome then controlFile files below
          else pure (files.addFile below []).files
      else files := (files.addLink below entry.fileName).files
    return files

/-- The image with the settings file or the directory at a path, if it is there and can be read. -/
def settings (files : FileSystem) (path : String) : IO FileSystem := do
  if path.isEmpty then return files
  else if ← ((← IO.currentDir) / path).isDir then return (files.makeDirectories path).files
  else
    match ← bytes? path with
    | some bytes => return (files.addFile path bytes).files
    | none => return files

/-- The image with the place of the script: the directory it goes to, and what stands there. -/
def destination (files : FileSystem) (directory : Option String) : IO FileSystem := do
  let mut files := files
  for directory in directory do
    if ← ((← IO.currentDir) / (Path.ofString directory).text).isDir then
      files := (files.makeDirectories (Path.ofString directory).text).files
  let path := Script.outputPath files directory
  if ← ((← IO.currentDir) / path).isDir then return (files.makeDirectories path).files
  else if ← ((← IO.currentDir) / path).pathExists then
    return (files.addFile path []).files
  else return files

/-- The path of an option, if it was given one. -/
def path? (option : Option (OptionValue String)) : Option String :=
  option.bind OptionValue.toOption

/-- The image of everything that a run with the options looks at. The settings come after the
directory, in which they stand without their content. -/
def ofOptions (options : Options) : IO FileSystem := do
  let working := (Path.ofString (← IO.currentDir).toString).names
  let mut files := FileSystem.empty working []
  let root := (Path.ofString ((path? options.root).getD ".")).text
  if ← ((← IO.currentDir) / root).isDir then
    files ← directory files root
  files ← destination files (path? options.outputDirectory)
  for path in options.counters.toOption do
    files ← settings files path
  for path in path? options.metadata do
    files ← settings files path
  return files

end CounterTrace.Image

open CounterTrace

/-- Writes the script that a run has left in the image. Where that fails, its place is barred and
the run is made again, so that it reports the failure. -/
def commit (files : FileSystem) (path : String) (terminal : Terminal) (arguments : List String)
    (run : Run) : IO Run := do
  match run.files.read path with
  | .error _ => return run
  | .ok bytes =>
    try
      IO.FS.writeBinFile ((← IO.currentDir) / path) bytes.toByteArray
      return run
    catch _ => return CommandLine.run (Image.bar files path) Logger.fresh terminal arguments

/-- The executable: its exit status is that of the run, or one where a failure ended it. -/
def main (arguments : List String) : IO UInt32 := do
  let output ← IO.getStdout
  let errors ← IO.getStderr
  let terminal : Terminal := ⟨← output.isTty, ← errors.isTty⟩
  let options := (CommandLine.parse arguments).toOption
  let files ← (options.map Image.ofOptions).getD (pure (FileSystem.empty [] []))
  let first := CommandLine.run files Logger.fresh terminal arguments
  let run ←
    match options, first.outcome with
    | some chosen, .ok 0 =>
      if chosen.inspect then pure first
      else
        let path := Script.outputPath files (Image.path? chosen.outputDirectory)
        commit files path terminal arguments first
    | _, _ => pure first
  output.putStr run.output
  errors.putStr run.errors
  match run.outcome with
  | .ok status => return status.toUInt32
  | .error failure =>
    errors.putStrLn failure.message
    return 1
