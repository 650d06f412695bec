/-!
# Paths

A path as text names a file or directory. Two readings of the text are used. The tidy form drops
repeated and trailing slashes and the components `.`, and keeps `..`; it is what the program prints
and what it appends names to. The steps are what a look-up follows: they keep `.`, which says that a
directory must stand there, and a trailing slash, which says the same, is an empty last step.

## Main definitions

* `Path`, `Path.ofString`, `Path.text` — the tidy form
* `Path.name` — its last component
* `Path.child` — the path with a name appended
* `Path.steps`, `Path.isAbsolute` — the steps of a look-up, and where it starts
* `Path.parent`, `Path.lineage` — the text without the last component, and all texts on the way
* `Path.join` — a directory's text followed by a name
-/

namespace CounterTrace

/-- The tidy form of a path: what stands before the first name (nothing, one slash or exactly two)
and the names, none of them empty or `.`. -/
structure Path where
  anchor : String
  names : List String
  deriving DecidableEq

namespace Path

/-- The pieces of a text between its slashes. -/
def pieces (path : String) : List String :=
  (path.toList.splitOn '/').map String.ofList

/-- What stands before the first name: two slashes are kept as they are, three or more are one. -/
def anchorOf (path : String) : String :=
  match path.toList.takeWhile (· == '/') with
  | [] => ""
  | ['/', '/'] => "//"
  | _ => "/"

/-- The tidy form of a text. -/
def ofString (path : String) : Path :=
  ⟨anchorOf path, (pieces path).filter fun piece => piece != "" && piece != "."⟩

/-- The text of a tidy path; the path without anchor and names is written `.`. -/
def text (path : Path) : String :=
  if path.anchor == "" && path.names.isEmpty then "."
  else path.anchor ++ String.intercalate "/" path.names

/-- The last component, empty if there is none. -/
def name (path : Path) : String := path.names.getLastD ""

/-- The path of an entry of the directory. -/
def child (path : Path) (entry : String) : Path :=
  ⟨path.anchor, path.names ++ [entry]⟩

/-- Whether a look-up starts at the root. -/
def isAbsolute (path : String) : Bool := path.toList.head? == some '/'

/-- Whether the text ends in a slash, so that a directory must stand at its end. -/
def endsInSlash (path : String) : Bool := path.toList.getLast? == some '/'

/-- The components that are not empty. -/
def components (path : String) : List String := (pieces path).filter (· != "")

/-- The steps of a look-up: the components that are not empty, and an empty last step where the text
ends in a slash. -/
def steps (path : String) : List String :=
  components path ++ if endsInSlash path then [""] else []

/-- The text of a directory followed by the name of one of its entries. -/
def join (directory entry : String) : String :=
  if endsInSlash directory then directory ++ entry else directory ++ "/" ++ entry

/-- A text without the slashes at its end, unless there is nothing else in it. -/
def withoutEndSlashes (path : String) : String :=
  match path.toList.reverse.dropWhile (· == '/') with
  | [] => path
  | rest => String.ofList rest.reverse

/-- The text of the directory in which the last component of a path stands: what comes before the
last slash. It is empty for a single component, and all of a path that ends in one slash. -/
def parent (path : String) : String :=
  withoutEndSlashes (String.ofList (path.toList.reverse.dropWhile (· != '/')).reverse)

/-- The texts from the first directory on the way down to the path, then those `below`; at most
`limit` directories are named. -/
def lineageTo : Nat → String → List String → List String
  | 0, path, below => path :: below
  | limit + 1, path, below =>
    if parent path == "" || parent path == path then path :: below
    else lineageTo limit (parent path) (path :: below)

/-- The texts of the directories on the way to a path, from the first down to the path itself. Every
parent is shorter than its path, so the length of the path is limit enough. -/
def lineage (path : String) : List String := lineageTo path.length path []

example : (ofString "./build//a/../b/").text = "build/a/../b" := by decide
example : (ofString "").text = "." ∧ (ofString "//./x").text = "//x" := by decide
example : steps "a//./b/" = ["a", ".", "b", ""] := by decide
example : parent "a//b" = "a" ∧ parent "a/" = "a" ∧ parent "a" = "" ∧ parent "/a" = "/" := by decide
example : lineage "a/b//c" = ["a", "a/b", "a/b//c"] := by decide

end Path

end CounterTrace
