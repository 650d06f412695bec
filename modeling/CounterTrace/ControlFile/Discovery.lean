import CounterTrace.ControlFile.Basic

/-!
# Finding control files

The directory tree under a root is visited depth first: the files and links of a directory before
its sub-directories, and both in the order of their names. Symbolic links to directories are not
entered. The visit is the sequence of what is met on the way; the search takes it up to the first
obstacle and keeps the files found before.

## Main definitions

* `Visit` — what is met: a control file, a refused path, or a name that cannot be read
* `Node.visits` — the visits of a directory tree
* `ControlFile.discover` — the control files under a root, in the order of identifier and path
-/

namespace CounterTrace

/-- What is met on the way through a directory tree. -/
inductive Visit where
  | found (file : ControlFile)
  | refused (error : AccessError)
  | failed (failure : Failure)
  deriving DecidableEq

/-- The visit of an entry that is no directory. It counts if its name is that of a control file and
it leads to a file. -/
def Visit.ofEntry (files : FileSystem) (directory entry : String) : List Visit :=
  match controlFileId? entry with
  | .error failure => [.failed failure]
  | .ok none => []
  | .ok (some id) =>
    let path := ((Path.ofString directory).child entry).text
    match files.isFile path with
    | .ok true => [.found (ControlFile.ofPath path id)]
    | .ok false => []
    | .error e => [.refused e]

/-- Things with names, in the order of the names. -/
def sortByName {α : Type} (entries : List (String × α)) : List (String × α) :=
  entries.mergeSort fun a b => decide (a.1 ≤ b.1)

mutual

/-- The visits of the directory at a path: its files and links in the order of their names, then its
sub-directories in the same order. A sub-directory behind an obstacle is refused and not entered. -/
def Node.visits (files : FileSystem) (path : String) : Node → List Visit
  | .file _ => []
  | .link _ => []
  | .directory entries =>
    ((sortByName (entries.filter fun entry => !entry.2.isDirectory)).flatMap fun entry =>
        Visit.ofEntry files path entry.1) ++
      (sortByName (subVisits files path entries)).flatMap (·.2)

/-- The visits of each sub-directory, with its name. -/
def subVisits (files : FileSystem) (path : String) :
    List (String × Node) → List (String × List Visit)
  | [] => []
  | (name, .directory entries) :: rest =>
    let below := Path.join path name
    (name,
      match files.obstacle? below with
      | some error => [.refused error]
      | none => Node.visits files below (.directory entries)) :: subVisits files path rest
  | _ :: rest => subVisits files path rest

end

/-- The control files of a sequence of visits up to the first obstacle, with a message for each; a
refused path ends the search with a warning. -/
def Visit.gather : List Visit → Report (List ControlFile)
  | [] => pure []
  | .found file :: rest => do
    Report.tell .debug
      ("Found ASM file: " ++ file.path ++ " (id=" ++ Numeral.text file.id ++ ", uc=" ++
        Numeral.text file.microController ++ ", columns " ++ Numeral.text file.firstColumn ++ "-" ++
        Numeral.text file.lastColumn ++ ")")
    let more ← gather rest
    pure (file :: more)
  | .refused error :: _ => do
    Report.tell .warning ("Error searching for ASM files: " ++ error.message)
    pure []
  | .failed failure :: _ => Report.ofExcept (.error failure)

namespace ControlFile

/-- The order of control files: by identifier, then by path. -/
def precedes (a b : ControlFile) : Bool :=
  decide (a.id < b.id) || (decide (a.id = b.id) && decide (a.path ≤ b.path))

/-- The text of the directory in which a search starts. -/
def searchRoot (files : FileSystem) (root : Option String) : String :=
  match root with
  | some path => (Path.ofString path).text
  | none => files.workingPath

/-- The visits of a search. -/
def searchVisits (files : FileSystem) (top : String) : List Visit :=
  match files.list top with
  | .ok entries => Node.visits files top (.directory entries)
  | .error .nullCharacter => [.failed (.access .nullCharacter)]
  | .error e => [.refused e]

/-- The control files under a root, or under the working directory if none is given. -/
def discover (files : FileSystem) (root : Option String) : Report (List ControlFile) := do
  let found ← Visit.gather (searchVisits files (searchRoot files root))
  pure (found.mergeSort precedes)

end ControlFile

end CounterTrace
