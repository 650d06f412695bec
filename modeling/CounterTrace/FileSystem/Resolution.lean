import CounterTrace.FileSystem.Basic

/-!
# Following a path

A look-up goes from directory to directory, one step of the path at a time. A symbolic link puts the
steps of its target in front of those that remain; at most forty links are followed in one look-up,
so a loop of links is refused and every look-up ends.

A look-up either finds what is there or prepares a file that is to be opened for writing and is made
if it is missing. No file can be made under a name with a slash after it, so the second kind is
refused at such a name, before anything is asked about it, wherever the slash comes from: the path
itself or the link that leads there.

## Main definitions

* `Refusal` — why a path is refused
* `Purpose` — whether a look-up finds what is there or prepares a file
* `Target` — where a path leads: to a node, or to a free name in a directory
* `FileSystem.resolve` — following a path, the last link included
-/

namespace CounterTrace

/-- Why the file system refuses a path. -/
inductive Refusal where
  | notFound
  | permissionDenied
  | alreadyExists
  | notDirectory
  | isDirectory
  | invalidArgument
  | nameTooLong
  | tooManyLinks
  deriving DecidableEq

/-- The number of the refusal. -/
def Refusal.number : Refusal → Nat
  | .notFound => 2
  | .permissionDenied => 13
  | .alreadyExists => 17
  | .notDirectory => 20
  | .isDirectory => 21
  | .invalidArgument => 22
  | .nameTooLong => 36
  | .tooManyLinks => 40

/-- The wording of the refusal. -/
def Refusal.reason : Refusal → String
  | .notFound => "No such file or directory"
  | .permissionDenied => "Permission denied"
  | .alreadyExists => "File exists"
  | .notDirectory => "Not a directory"
  | .isDirectory => "Is a directory"
  | .invalidArgument => "Invalid argument"
  | .nameTooLong => "File name too long"
  | .tooManyLinks => "Too many levels of symbolic links"

/-- What a look-up is for: finding what is there, or opening a file that is made if it is
missing. -/
inductive Purpose where
  | find
  | create
  deriving DecidableEq

/-- Where a path leads: to a file or directory, or to a name that a directory does not have. -/
inductive Target where
  | present (location : Location) (node : Node)
  | absent (directory : Location) (name : String)

namespace FileSystem

/-- The longest name in bytes. -/
def maxNameBytes : Nat := 255

/-- The number of links followed in one look-up. -/
def maxLinks : Nat := 40

/-- Follows the steps from the directory `here`; `follow` goes on behind a link, from the directory
that the link stands in, with the link's target in front of the steps that remain. -/
def walkSteps (root : Node) (purpose : Purpose)
    (follow : Location → String → List String → Except Refusal Target) :
    Location → List String → Except Refusal Target
  | here, [] =>
    match root.at? here with
    | some node => .ok (.present here node)
    | none => .error .notFound
  | here, step :: rest =>
    if step == "." || step == "" then walkSteps root purpose follow here rest
    else if step == ".." then walkSteps root purpose follow here.dropLast rest
    else if purpose == .create && rest == [""] then .error .isDirectory
    else if maxNameBytes < step.utf8ByteSize then .error .nameTooLong
    else
      match root.at? (here ++ [step]) with
      | none => if rest.isEmpty then .ok (.absent here step) else .error .notFound
      | some (.directory _) => walkSteps root purpose follow (here ++ [step]) rest
      | some (.file content) =>
        if rest.isEmpty then .ok (.present (here ++ [step]) (.file content))
        else .error .notDirectory
      | some (.link target) => follow here target rest

/-- Follows the steps from a directory through at most `links` links. -/
def followSteps (root : Node) (purpose : Purpose) :
    Nat → Location → List String → Except Refusal Target
  | 0 => walkSteps root purpose fun _ _ _ => .error .tooManyLinks
  | links + 1 => walkSteps root purpose fun here target rest =>
    followSteps root purpose links (if Path.isAbsolute target then [] else here)
      (Path.steps target ++ rest)

/-- Where a path leads, the last link followed. The empty path leads nowhere. -/
def resolve (files : FileSystem) (purpose : Purpose) (path : String) : Except Refusal Target :=
  if path.isEmpty then .error .notFound
  else followSteps files.root purpose maxLinks
    (if Path.isAbsolute path then [] else files.workingDirectory) (Path.steps path)

end FileSystem

end CounterTrace
