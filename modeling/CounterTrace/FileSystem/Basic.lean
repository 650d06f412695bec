import CounterTrace.Path

/-!
# File systems

A file system is a tree of directories, files and symbolic links, a working directory, and a list
of barred places. A barred place may not be listed, read as a control file or opened as the script,
although its content is there. For settings files no such refusal is modelled.

## Main definitions

* `Node` — a file, a symbolic link or a directory
* `Location` — the names from the root down to a node
* `Node.at?`, `Node.place` — looking up and replacing a node
* `FileSystem`, `FileSystem.lexical`, `FileSystem.isBarred`
-/

namespace CounterTrace

/-- The names from the root of a file system down to one of its nodes. -/
abbrev Location := List String

/-- A file with its bytes, a symbolic link with its target, or a directory with its entries in the
order in which they are listed. -/
inductive Node where
  | file (content : List UInt8)
  | link (target : String)
  | directory (entries : List (String × Node))
  deriving BEq, Inhabited

namespace Node

/-- Whether the node is itself a directory; a link to one is not. -/
def isDirectory : Node → Bool
  | .directory _ => true
  | _ => false

/-- The node at a location below this one. Links are nodes of their own and are not followed. -/
def at? : Node → Location → Option Node
  | node, [] => some node
  | .directory entries, name :: rest =>
    match entries.lookup name with
    | some node => node.at? rest
    | none => none
  | _, _ :: _ => none
termination_by structural _ location => location

/-- The entries with the named one replaced, or added at the end if there is none. -/
def setEntry (entries : List (String × Node)) (name : String) (node : Node) :
    List (String × Node) :=
  match entries with
  | [] => [(name, node)]
  | entry :: rest =>
    if entry.1 == name then (name, node) :: rest else entry :: setEntry rest name node

/-- The tree with the node at a location replaced, or added to a directory that lacks it. Where the
directories on the way are missing the tree stays as it is. -/
def place : Node → Location → Node → Node
  | _, [], new => new
  | .directory entries, name :: rest, new =>
    match entries.lookup name with
    | some node => .directory (setEntry entries name (node.place rest new))
    | none => if rest.isEmpty then .directory (setEntry entries name new) else .directory entries
  | node, _ :: _, _ => node
termination_by structural _ location => location

/-- The tree without the node at a location. -/
def erase : Node → Location → Node
  | node, [] => node
  | .directory entries, name :: rest =>
    if rest.isEmpty then .directory (entries.filter (·.1 != name))
    else
      match entries.lookup name with
      | some node => .directory (setEntry entries name (node.erase rest))
      | none => .directory entries
  | node, _ :: _ => node
termination_by structural _ location => location

end Node

/-- A tree of nodes with a working directory and the barred places. -/
structure FileSystem where
  root : Node
  workingDirectory : Location
  barred : List Location
  deriving Inhabited

namespace FileSystem

/-- The location that a path has by its text alone: `.` is dropped, `..` takes back the name before
it, and links are not considered. -/
def lexical (files : FileSystem) (path : String) : Location :=
  (Path.components path).foldl
    (fun location step =>
      if step == "." then location
      else if step == ".." then location.dropLast
      else location ++ [step])
    (if Path.isAbsolute path then [] else files.workingDirectory)

/-- Whether the place that the text of a path denotes is barred. -/
def isBarred (files : FileSystem) (path : String) : Bool :=
  files.barred.contains (files.lexical path)

/-- The text of the working directory as an absolute path. -/
def workingPath (files : FileSystem) : String :=
  (Path.mk "/" files.workingDirectory).text

end FileSystem

end CounterTrace
