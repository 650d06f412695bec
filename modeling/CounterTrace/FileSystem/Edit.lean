import CounterTrace.FileSystem.Access

/-!
# Editing a file system

Adding directories, files and links by path, with the directories above them made as needed, and
removing what stands at a path. An edit that is refused keeps what it has done before: the
directories made for a file that cannot be written stay, and a directory that has been emptied stays
empty where its name cannot be removed.

## Main definitions

* `FileSystem.empty` — nothing but a working directory
* `Edit` — the file system that an edit leaves, and whether the edit went through
* `FileSystem.makeDirectories` — a directory with those above it
* `FileSystem.addFile`, `FileSystem.addLink` — a file or link with the directories above it
* `FileSystem.remove` — the file system without a file, a link or a whole directory
-/

namespace CounterTrace

/-- What an edit leaves: the file system as far as the edit came, and whether it went through. -/
structure Edit where
  files : FileSystem
  outcome : Except AccessError Unit

/-- The edit that a change makes, if it is granted; a refused change leaves the file system as it
was. -/
def Edit.ofChange (files : FileSystem) : Except AccessError FileSystem → Edit
  | .ok after => ⟨after, .ok ()⟩
  | .error e => ⟨files, .error e⟩

/-- An edit followed by a change, which is made only if the edit went through. -/
def Edit.andThen (edit : Edit) (change : FileSystem → Except AccessError FileSystem) : Edit :=
  match edit.outcome with
  | .ok () => .ofChange edit.files (change edit.files)
  | .error _ => edit

namespace FileSystem

/-- A tree that is only a chain of directories down to a location. -/
def chain : Location → Node
  | [] => .directory []
  | name :: rest => .directory [(name, chain rest)]

/-- The file system that holds nothing but its empty working directory. -/
def empty (workingDirectory : Location) (barred : List Location) : FileSystem :=
  ⟨chain workingDirectory, workingDirectory, barred⟩

/-! ### Entries of directories -/

/-- The location of the entry that a path names in the directory above it: the last component is not
followed if it is a link. A path that is only slashes, or that ends in the component `.` or `..`,
names no entry. -/
def entry (files : FileSystem) (path : String) : Except AccessError (Option Location) :=
  if path.toList.contains '\x00' then .error .nullCharacter
  else if maxPathBytes < path.utf8ByteSize then .error (.refused .nameTooLong path)
  else if path.isEmpty then .error (.refused .notFound path)
  else
    let components := Path.components path
    match followSteps files.root .find maxLinks
        (if Path.isAbsolute path then [] else files.workingDirectory)
        (components.dropLast ++ ["."]) with
    | .error reason => .error (.refused reason path)
    | .ok (.absent _ _) => .error (.refused .notFound path)
    | .ok (.present directory _) =>
      match components.getLast? with
      | none => .ok none
      | some name =>
        if name == "." || name == ".." then .ok none
        else if maxNameBytes < name.utf8ByteSize then .error (.refused .nameTooLong path)
        else .ok (some (directory ++ [name]))

/-- The file system with a node at a path where nothing stands. -/
def addNew (files : FileSystem) (path : String) (node : Node) : Except AccessError FileSystem :=
  match files.entry path with
  | .error e => .error e
  | .ok none => .error (.refused .alreadyExists path)
  | .ok (some location) =>
    if (files.root.at? location).isSome then .error (.refused .alreadyExists path)
    else .ok { files with root := files.root.place location node }

/-! ### Adding -/

/-- Whether a path leads to a file or directory. -/
def leadsSomewhere (files : FileSystem) (path : String) : Bool :=
  match files.target .find path with
  | .ok (.present _ _) => true
  | _ => false

/-- Whether a path leads to a directory. -/
def isDirectory (files : FileSystem) (path : String) : Bool :=
  match files.target .find path with
  | .ok (.present _ (.directory _)) => true
  | _ => false

/-- Whether a path only repeats the directory above it, which is not there: its last component is
`.`. Nothing is made for such a path. -/
def repeatsMissing (files : FileSystem) (path : String) : Bool :=
  (Path.components path).getLast? == some "." && !files.leadsSomewhere (Path.parent path)

/-- Makes the directories at the paths, each after those above it. Whatever stands in the way before
the last path is passed over, since the next path then fails by itself; at the last path a directory
must stand in the end. -/
def makeEach (files : FileSystem) : List String → Edit
  | [] => ⟨files, .ok ()⟩
  | path :: rest =>
    if files.isDirectory path || files.repeatsMissing path then makeEach files rest
    else
      match files.addNew path (.directory []) with
      | .ok made => makeEach made rest
      | .error e =>
        if !rest.isEmpty && e == .refused .alreadyExists path then makeEach files rest
        else ⟨files, .error e⟩

/-- The file system with a directory at a path and the directories above it. -/
def makeDirectories (files : FileSystem) (path : String) : Edit :=
  files.makeEach (Path.lineage path)

/-- The file system with the directories above a path. -/
def makeParents (files : FileSystem) (path : String) : Edit :=
  if (Path.parent path).isEmpty then ⟨files, .ok ()⟩
  else files.makeDirectories (Path.parent path)

/-- The file system with a file at a path, barred or not, and the directories above it. -/
def addFile (files : FileSystem) (path : String) (content : List UInt8) : Edit :=
  (files.makeParents path).andThen fun parents =>
    (({ parents with barred := [] } : FileSystem).write path content).map fun written =>
      { written with barred := files.barred }

/-- The file system with a symbolic link at a path and the directories above it. -/
def addLink (files : FileSystem) (path target : String) : Edit :=
  (files.makeParents path).andThen fun parents => parents.addNew path (.link target)

/-! ### Removing -/

/-- The file system without the file or link that a path names. A slash at the end asks for a
directory, which neither is. -/
def removeFile (files : FileSystem) (path : String) : Except AccessError FileSystem :=
  match files.entry path with
  | .error e => .error e
  | .ok none => .error (.refused .isDirectory path)
  | .ok (some location) =>
    match files.root.at? location with
    | none => .error (.refused .notFound path)
    | some (.directory _) => .error (.refused .isDirectory path)
    | some _ =>
      if Path.endsInSlash path then .error (.refused .notDirectory path)
      else .ok { files with root := files.root.erase location }

/-- The file system without the directory that a path names, whatever is in it. -/
def removeDirectory (files : FileSystem) (path : String) : Except AccessError FileSystem :=
  match files.entry path with
  | .error e => .error e
  | .ok none => .error (.refused .invalidArgument path)
  | .ok (some location) =>
    match files.root.at? location with
    | none => .error (.refused .notFound path)
    | some (.directory _) => .ok { files with root := files.root.erase location }
    | some _ => .error (.refused .notDirectory path)

/-- Whether a path names a link itself and not what the link leads to. -/
def namesLink (files : FileSystem) (path : String) : Bool :=
  match files.entry path with
  | .ok (some location) =>
    match files.root.at? location with
    | some (.link _) => !Path.endsInSlash path
    | _ => false
  | _ => false

/-- The file system without the file, link or directory at a path. A directory is emptied before its
name is removed; a link to one is removed and not followed, unless a slash comes after it. -/
def remove (files : FileSystem) (path : String) : Edit :=
  match files.target .find path with
  | .ok (.present location (.directory _)) =>
    if files.namesLink path then .ofChange files (files.removeFile path)
    else
      let emptied := { files with root := files.root.place location (.directory []) }
      .ofChange emptied (emptied.removeDirectory path)
  | _ => .ofChange files (files.removeFile path)

end FileSystem

end CounterTrace
