import CounterTrace.FileSystem.Resolution
import CounterTrace.Text.Quoted

/-!
# Access to files

Listing, reading, testing and writing by path. A path with a null character is rejected before the
file system is asked, and a path that is too long is refused before it is followed. Settings files
are read as they are, at barred places too; only directory listings, control files and the script
are subject to the barred places.

## Main definitions

* `AccessError`, `AccessError.message` — a rejected or refused path
* `FileSystem.read` — the bytes of a file
* `FileSystem.readPermitted` — the same for a place that may be barred
* `FileSystem.list` — the entries of a directory
* `FileSystem.obstacle?` — why an existing directory cannot be listed by a path
* `FileSystem.isFile` — whether a path leads to a file
* `FileSystem.write` — the file system after a file has been written whole
-/

namespace CounterTrace

/-- Why a path gives no access: it holds a null character, or the file system refuses it. -/
inductive AccessError where
  | nullCharacter
  | refused (reason : Refusal) (path : String)
  deriving DecidableEq

/-- The text of an access error. -/
def AccessError.message : AccessError → String
  | .nullCharacter => "embedded null byte"
  | .refused reason path =>
    "[Errno " ++ toString reason.number ++ "] " ++ reason.reason ++ ": " ++ Text.quoted path

namespace FileSystem

/-- The longest path in bytes. -/
def maxPathBytes : Nat := 4095

/-- Where a path leads that holds no null character and is not too long. -/
def target (files : FileSystem) (purpose : Purpose) (path : String) : Except AccessError Target :=
  if path.toList.contains '\x00' then .error .nullCharacter
  else if maxPathBytes < path.utf8ByteSize then .error (.refused .nameTooLong path)
  else
    match files.resolve purpose path with
    | .ok target => .ok target
    | .error reason => .error (.refused reason path)

/-- The bytes of the file that a path leads to. -/
def read (files : FileSystem) (path : String) : Except AccessError (List UInt8) :=
  match files.target .find path with
  | .error e => .error e
  | .ok (.present _ (.file content)) => .ok content
  | .ok (.present _ _) => .error (.refused .isDirectory path)
  | .ok (.absent _ _) => .error (.refused .notFound path)

/-- The bytes of the file that a path leads to, unless the place is barred. -/
def readPermitted (files : FileSystem) (path : String) : Except AccessError (List UInt8) :=
  if files.isBarred path then .error (.refused .permissionDenied path) else files.read path

/-- The entries of the directory that a path leads to, unless the place is barred. -/
def list (files : FileSystem) (path : String) : Except AccessError (List (String × Node)) :=
  if files.isBarred path then .error (.refused .permissionDenied path)
  else
    match files.target .find path with
    | .error e => .error e
    | .ok (.present _ (.directory entries)) => .ok entries
    | .ok (.present _ _) => .error (.refused .notDirectory path)
    | .ok (.absent _ _) => .error (.refused .notFound path)

/-- Why a directory that a path leads to cannot be listed by that path: its place is barred, or the
path is too long. -/
def obstacle? (files : FileSystem) (path : String) : Option AccessError :=
  if files.isBarred path then some (.refused .permissionDenied path)
  else if maxPathBytes < path.utf8ByteSize then some (.refused .nameTooLong path)
  else none

/-- Whether a path leads to a file. A path that leads nowhere, passes through a file or runs into
too many links does not; another refusal is an error. -/
def isFile (files : FileSystem) (path : String) : Except AccessError Bool :=
  match files.target .find path with
  | .ok (.present _ (.file _)) => .ok true
  | .ok _ => .ok false
  | .error (.refused .notFound _) => .ok false
  | .error (.refused .notDirectory _) => .ok false
  | .error (.refused .tooManyLinks _) => .ok false
  | .error .nullCharacter => .ok false
  | .error e => .error e

/-- Where a file opened for writing at a path comes to lie: the place of the file that is replaced,
or the free place that the path leads to, through its last link if that dangles. -/
def writeLocation (files : FileSystem) (path : String) : Except AccessError Location :=
  if files.isBarred path then .error (.refused .permissionDenied path)
  else
    match files.target .create path with
    | .error e => .error e
    | .ok (.present location (.file _)) => .ok location
    | .ok (.present _ _) => .error (.refused .isDirectory path)
    | .ok (.absent directory name) => .ok (directory ++ [name])

/-- The file system with the bytes as the whole content of the file at a path. -/
def write (files : FileSystem) (path : String) (content : List UInt8) :
    Except AccessError FileSystem :=
  match files.writeLocation path with
  | .error e => .error e
  | .ok location => .ok { files with root := files.root.place location (.file content) }

end FileSystem

end CounterTrace
