import CounterTrace.FileSystem.Resolution
import CounterTrace.Proofs.Paths

/-!
# Trees of nodes

What the look-up of a node and the replacement of a file have to do with each other, and what makes
a value of the type a file system: the entries of a directory have different names, each of them a
name that can stand in a path.

## Main definitions

* `Node.IsName` — a name that an entry can have
* `Node.WellFormed`, `FileSystem.WellFormed` — trees and file systems as there can be
* `Node.bare` — a node without what is in it, if it is a directory

## Main results

* `Node.WellFormed.at?` — what stands below a well-formed node is well formed
* `Node.at?_place` — a placed node stands where it was placed
* `Node.at?_place_of_ne` — placing a file changes no other file, no link and no other directory
* `Node.place_eq_self`, `Node.WellFormed.place` — placing a node again, and that a tree stays well
  formed
-/

namespace CounterTrace

/-- A look-up finds exactly what is there, if no key is there twice. -/
theorem lookup_eq_some_iff_mem {α β : Type} [BEq α] [LawfulBEq α] {pairs : List (α × β)} {key : α}
    {value : β} (distinct : (pairs.map (·.1)).Nodup) :
    pairs.lookup key = some value ↔ (key, value) ∈ pairs := by
  rw [List.lookup_eq_some_iff]
  constructor
  · rintro ⟨before, after, rfl, -⟩
    simp
  · intro member
    obtain ⟨before, after, rfl⟩ := List.append_of_mem member
    refine ⟨before, after, rfl, fun earlier inside => ?_⟩
    -- An earlier pair with the key would be a second one.
    rw [List.map_append, List.map_cons, List.nodup_append] at distinct
    have apart := distinct.2.2 earlier.1 (List.mem_map_of_mem inside) key List.mem_cons_self
    simpa using apart.symm

namespace Node

/-- A name that an entry of a directory can have. -/
structure IsName (name : String) : Prop where
  piece : Path.IsPiece name
  ne_parent : name ≠ ".."
  whole : '\x00' ∉ name.toList
  short : name.utf8ByteSize ≤ FileSystem.maxNameBytes

/-- A tree as a file system can hold it: the entries of each directory have different names that
can stand in a path, and a link leads along a path. -/
inductive WellFormed : Node → Prop
  | file (content : List UInt8) : WellFormed (.file content)
  | link {target : String} (named : target ≠ "") (whole : '\x00' ∉ target.toList) :
    WellFormed (.link target)
  | directory {entries : List (String × Node)} (distinct : (entries.map (·.1)).Nodup)
    (names : ∀ entry ∈ entries, IsName entry.1) (below : ∀ entry ∈ entries, WellFormed entry.2) :
    WellFormed (.directory entries)

instance (name : String) : Decidable (IsName name) :=
  decidable_of_iff
    ((name ≠ "" ∧ name ≠ "." ∧ '/' ∉ name.toList) ∧ name ≠ ".." ∧ '\x00' ∉ name.toList ∧
      name.utf8ByteSize ≤ FileSystem.maxNameBytes)
    ⟨fun ⟨piece, ne_parent, whole, short⟩ => ⟨piece, ne_parent, whole, short⟩,
      fun ⟨piece, ne_parent, whole, short⟩ => ⟨piece, ne_parent, whole, short⟩⟩

mutual

/-- Whether a tree is well formed. -/
def isWellFormed : Node → Bool
  | .file _ => true
  | .link target => decide (target ≠ "") && decide ('\x00' ∉ target.toList)
  | .directory entries => decide (entries.map (·.1)).Nodup && entriesAreWellFormed entries

/-- Whether entries have names that can stand in a path, and well-formed nodes. -/
def entriesAreWellFormed : List (String × Node) → Bool
  | [] => true
  | (name, node) :: rest =>
    decide (IsName name) && node.isWellFormed && entriesAreWellFormed rest

end

/-- The node without the entries in it: a file with its bytes, a link with its target, or that it is
a directory. -/
def bare : Node → Node
  | .directory _ => .directory []
  | node => node

variable {entries : List (String × Node)} {name other : String} {node new : Node}
  {location rest : Location}

mutual

theorem wellFormed_of_isWellFormed (node : Node) (checked : node.isWellFormed) :
    node.WellFormed := by
  cases node with
  | file content => exact .file content
  | link target =>
    rw [isWellFormed, Bool.and_eq_true, decide_eq_true_eq, decide_eq_true_eq] at checked
    exact .link checked.1 checked.2
  | directory entries =>
    rw [isWellFormed, Bool.and_eq_true, decide_eq_true_eq] at checked
    have inside := wellFormed_of_entriesAreWellFormed entries checked.2
    exact .directory checked.1 (fun entry member => (inside entry member).1)
      fun entry member => (inside entry member).2

theorem wellFormed_of_entriesAreWellFormed (entries : List (String × Node))
    (checked : entriesAreWellFormed entries) :
    ∀ entry ∈ entries, IsName entry.1 ∧ entry.2.WellFormed := by
  cases entries with
  | nil => simp
  | cons entry entries =>
    obtain ⟨name, node⟩ := entry
    rw [entriesAreWellFormed, Bool.and_eq_true, Bool.and_eq_true, decide_eq_true_eq] at checked
    rw [List.forall_mem_cons]
    exact ⟨⟨checked.1.1, wellFormed_of_isWellFormed node checked.1.2⟩,
      wellFormed_of_entriesAreWellFormed entries checked.2⟩

end

mutual

theorem isWellFormed_of_wellFormed (node : Node) (wellFormed : node.WellFormed) :
    node.isWellFormed := by
  cases node with
  | file content => rfl
  | link target =>
    cases wellFormed with
    | link named whole => simp [isWellFormed, named, whole]
  | directory entries =>
    cases wellFormed with
    | directory distinct names below =>
      rw [isWellFormed, Bool.and_eq_true, decide_eq_true_eq]
      exact ⟨distinct, entriesAreWellFormed_of_wellFormed entries fun entry member =>
        ⟨names entry member, below entry member⟩⟩

theorem entriesAreWellFormed_of_wellFormed (entries : List (String × Node))
    (inside : ∀ entry ∈ entries, IsName entry.1 ∧ entry.2.WellFormed) :
    entriesAreWellFormed entries := by
  cases entries with
  | nil => rfl
  | cons entry entries =>
    obtain ⟨name, node⟩ := entry
    rw [List.forall_mem_cons] at inside
    rw [entriesAreWellFormed, Bool.and_eq_true, Bool.and_eq_true, decide_eq_true_eq]
    exact ⟨⟨inside.1.1, isWellFormed_of_wellFormed node inside.1.2⟩,
      entriesAreWellFormed_of_wellFormed entries inside.2⟩

end

theorem isWellFormed_iff : node.isWellFormed ↔ node.WellFormed :=
  ⟨wellFormed_of_isWellFormed node, isWellFormed_of_wellFormed node⟩

instance (node : Node) : Decidable node.WellFormed := decidable_of_iff _ isWellFormed_iff

/-! ### Looking up -/

@[simp] theorem at?_nil : node.at? [] = some node := by
  cases node <;> rfl

theorem at?_cons :
    (Node.directory entries).at? (name :: rest) = (entries.lookup name).bind (·.at? rest) := by
  rw [Node.at?]
  cases entries.lookup name <;> rfl

@[simp] theorem at?_file_cons {content : List UInt8} :
    (Node.file content).at? (name :: rest) = none := rfl

@[simp] theorem at?_link_cons {target : String} :
    (Node.link target).at? (name :: rest) = none := rfl

theorem at?_append : node.at? (location ++ rest) = (node.at? location).bind (·.at? rest) := by
  induction location generalizing node with
  | nil => simp
  | cons name location ih =>
    cases node with
    | file content => rfl
    | link target => rfl
    | directory entries =>
      rw [List.cons_append, at?_cons, at?_cons]
      cases entries.lookup name with
      | none => rfl
      | some child => exact ih

/-- Below a node that has been looked up the look-up goes on from there. -/
theorem at?_append_of_at? (reached : node.at? location = some new) :
    node.at? (location ++ rest) = new.at? rest := by
  rw [at?_append, reached, Option.bind_some]

/-- An entry of a directory stands under its name. -/
theorem at?_of_lookup (inside : node.at? location = some (.directory entries))
    (entry : entries.lookup name = some new) : node.at? (location ++ [name]) = some new := by
  rw [at?_append_of_at? inside, at?_cons, entry, Option.bind_some, at?_nil]

/-- What stands on the way to a node is a directory. -/
theorem exists_directory_of_at?_append (below : rest ≠ [])
    (found : node.at? (location ++ rest) = some new) :
    ∃ entries, node.at? location = some (.directory entries) := by
  rw [at?_append] at found
  obtain ⟨child, middle, found⟩ := Option.bind_eq_some_iff.mp found
  obtain ⟨name, rest, rfl⟩ := List.exists_cons_of_ne_nil below
  cases child with
  | file content => simp at found
  | link target => simp at found
  | directory entries => exact ⟨entries, middle⟩

theorem mem_of_lookup (found : entries.lookup name = some node) : (name, node) ∈ entries := by
  obtain ⟨before, after, rfl, -⟩ := List.lookup_eq_some_iff.mp found
  simp

theorem WellFormed.isName (wellFormed : (Node.directory entries).WellFormed)
    (member : (name, node) ∈ entries) : IsName name := by
  cases wellFormed with
  | directory distinct names below => exact names _ member

theorem WellFormed.entry (wellFormed : (Node.directory entries).WellFormed)
    (found : entries.lookup name = some node) : IsName name ∧ node.WellFormed := by
  cases wellFormed with
  | directory distinct names below =>
    have member := mem_of_lookup found
    exact ⟨names _ member, below _ member⟩

/-- What stands below a well-formed node is well formed, and the names on the way are names. -/
theorem WellFormed.at? (wellFormed : node.WellFormed) (found : node.at? location = some new) :
    new.WellFormed ∧ ∀ name ∈ location, IsName name := by
  induction location generalizing node with
  | nil =>
    obtain rfl : node = new := by simpa using found
    exact ⟨wellFormed, by simp⟩
  | cons name location ih =>
    cases node with
    | file content => simp at found
    | link target => simp at found
    | directory entries =>
      rw [at?_cons] at found
      obtain ⟨child, entry, found⟩ := Option.bind_eq_some_iff.mp found
      obtain ⟨isName, childWellFormed⟩ := wellFormed.entry entry
      obtain ⟨newWellFormed, names⟩ := ih childWellFormed found
      exact ⟨newWellFormed, List.forall_mem_cons.mpr ⟨isName, names⟩⟩

/-- An entry of a directory stands at the place of the directory with its name behind it. -/
theorem mem_iff_at? {tree : Node} (wellFormed : tree.WellFormed)
    (reached : tree.at? location = some (.directory entries)) :
    (name, node) ∈ entries ↔ tree.at? (location ++ [name]) = some node := by
  cases (wellFormed.at? reached).1 with
  | directory distinct names below =>
    rw [at?_append_of_at? reached, at?_cons, ← lookup_eq_some_iff_mem distinct]
    cases entries.lookup name <;> simp

/-! ### Placing -/

theorem lookup_setEntry_self : (setEntry entries name new).lookup name = some new := by
  induction entries with
  | nil => simp [setEntry]
  | cons entry entries ih =>
    rw [setEntry]
    split
    case isTrue => simp
    case isFalse different =>
      have apart : (name == entry.1) = false := by
        simpa using fun same : name = entry.1 => different (by simp [same])
      rw [List.lookup_cons, apart]
      exact ih

theorem lookup_setEntry_of_ne (different : other ≠ name) :
    (setEntry entries name new).lookup other = entries.lookup other := by
  have apart : (other == name) = false := by simpa using different
  induction entries with
  | nil => simp [setEntry, different]
  | cons entry entries ih =>
    rw [setEntry]
    split
    case isTrue same =>
      have replaced : (other == entry.1) = false := by
        rw [eq_of_beq same]
        exact apart
      rw [List.lookup_cons, List.lookup_cons, apart, replaced]
    case isFalse => rw [List.lookup_cons, List.lookup_cons, ih]

theorem place_singleton :
    (Node.directory entries).place [name] new = .directory (setEntry entries name new) := by
  rw [place]
  cases entries.lookup name with
  | none => rfl
  | some child => cases child <;> rfl

theorem place_cons (found : entries.lookup name = some node) :
    (Node.directory entries).place (name :: rest) new =
      .directory (setEntry entries name (node.place rest new)) := by
  rw [place, found]

/-- A node that is placed in a directory stands there. -/
theorem at?_place (inside : node.at? location = some (.directory entries)) :
    (node.place (location ++ [name]) new).at? (location ++ [name]) = some new := by
  -- Placing and looking up go down the same way, one name at a time.
  induction location generalizing node with
  | nil =>
    obtain rfl : node = .directory entries := by simpa using inside
    rw [List.nil_append, place_singleton, at?_cons, lookup_setEntry_self]
    simp
  | cons first location ih =>
    cases node with
    | file content => simp at inside
    | link target => simp at inside
    | directory children =>
      rw [at?_cons] at inside
      obtain ⟨child, found, inside⟩ := Option.bind_eq_some_iff.mp inside
      rw [List.cons_append, place_cons found, at?_cons, lookup_setEntry_self]
      exact ih inside

theorem at?_eq_none_of_leaf (leaf : ¬ node.isDirectory) (below : location ≠ []) :
    node.at? location = none := by
  obtain ⟨name, rest, rfl⟩ := List.exists_cons_of_ne_nil below
  cases node with
  | file content => rfl
  | link target => rfl
  | directory entries => exact absurd rfl leaf

/-- Placing a node that is no directory where no directory stands changes nothing anywhere else: at
every other location there is the same file, the same link, or again a directory. -/
theorem at?_place_of_ne {here : Location}
    (inside : node.at? location = some (.directory entries)) (leaf : ¬ new.isDirectory)
    (free : ∀ children, entries.lookup name ≠ some (.directory children))
    (elsewhere : here ≠ location ++ [name]) :
    ((node.place (location ++ [name]) new).at? here).map bare = (node.at? here).map bare := by
  induction location generalizing node here with
  | nil =>
    obtain rfl : node = .directory entries := by simpa using inside
    cases here with
    | nil => simp [place_singleton, bare]
    | cons first rest =>
      rw [List.nil_append, place_singleton, at?_cons, at?_cons]
      by_cases same : first = name
      -- Below the name itself there was nothing, and nothing is put there.
      · have below : rest ≠ [] := by
          rintro rfl
          exact elsewhere (by simp [same])
        rw [same, lookup_setEntry_self, Option.bind_some, at?_eq_none_of_leaf leaf below]
        cases old : entries.lookup name with
        | none => rfl
        | some child =>
          have childLeaf : ¬ child.isDirectory := by
            cases child with
            | file content => simp [isDirectory]
            | link target => simp [isDirectory]
            | directory children => exact absurd old (free children)
          rw [Option.bind_some, at?_eq_none_of_leaf childLeaf below]
      · rw [lookup_setEntry_of_ne same]
  | cons step location ih =>
    cases node with
    | file content => simp at inside
    | link target => simp at inside
    | directory children =>
      rw [at?_cons] at inside
      obtain ⟨child, found, inside⟩ := Option.bind_eq_some_iff.mp inside
      rw [List.cons_append, place_cons found]
      -- Only the child on the way is changed, and in it only what is at the place.
      cases here with
      | nil => simp [bare]
      | cons first rest =>
        rw [at?_cons, at?_cons]
        by_cases same : first = step
        · have further : rest ≠ location ++ [name] := by
            rintro rfl
            exact elsewhere (by simp [same])
          rw [same, lookup_setEntry_self, found]
          exact ih inside further
        · rw [lookup_setEntry_of_ne same]

/-! ### Placing again, and placing well -/

theorem setEntry_eq_self (found : entries.lookup name = some node) :
    setEntry entries name node = entries := by
  induction entries with
  | nil => cases found
  | cons entry entries ih =>
    obtain ⟨first, content⟩ := entry
    rw [setEntry]
    rw [List.lookup_cons] at found
    by_cases same : first = name
    · obtain rfl : content = node := by simpa [same] using found
      simp [same]
    · have unequal : (name == first) = false := by simpa using Ne.symm same
      rw [unequal] at found
      simp [same, ih found]

/-- Placing what stands at a place already changes nothing. -/
theorem place_eq_self (found : node.at? location = some new) : node.place location new = node := by
  induction location generalizing node with
  | nil =>
    obtain rfl : node = new := by simpa using found
    cases node <;> rfl
  | cons name location ih =>
    cases node with
    | file content => simp at found
    | link target => simp at found
    | directory entries =>
      rw [at?_cons] at found
      obtain ⟨child, entry, found⟩ := Option.bind_eq_some_iff.mp found
      rw [place_cons entry, ih found, setEntry_eq_self entry]

theorem mem_setEntry {entry : String × Node} (member : entry ∈ setEntry entries name new) :
    entry = (name, new) ∨ entry ∈ entries := by
  induction entries with
  | nil => simpa [setEntry] using member
  | cons first entries ih =>
    rw [setEntry] at member
    split at member
    · rcases List.mem_cons.mp member with same | later
      · exact Or.inl same
      · exact Or.inr (List.mem_cons_of_mem _ later)
    · rcases List.mem_cons.mp member with same | later
      · exact Or.inr (same ▸ List.mem_cons_self)
      · exact (ih later).imp id (List.mem_cons_of_mem _)

theorem nodup_setEntry (distinct : (entries.map (·.1)).Nodup) :
    ((setEntry entries name new).map (·.1)).Nodup := by
  induction entries with
  | nil => simp [setEntry]
  | cons first entries ih =>
    rw [List.map_cons, List.nodup_cons] at distinct
    rw [setEntry]
    split
    case isTrue same =>
      rw [List.map_cons, List.nodup_cons, ← eq_of_beq same]
      exact distinct
    case isFalse different =>
      rw [List.map_cons, List.nodup_cons]
      refine ⟨fun repeated => ?_, ih distinct.2⟩
      obtain ⟨entry, member, same⟩ := List.mem_map.mp repeated
      rcases mem_setEntry member with rfl | old
      · exact different (beq_iff_eq.mpr same.symm)
      · exact distinct.1 (List.mem_map.mpr ⟨entry, old, same⟩)

theorem WellFormed.setEntry (wellFormed : (Node.directory entries).WellFormed)
    (isName : IsName name) (newWellFormed : new.WellFormed) :
    (Node.directory (setEntry entries name new)).WellFormed := by
  cases wellFormed with
  | directory distinct names below =>
    refine .directory (nodup_setEntry distinct) (fun entry member => ?_) fun entry member => ?_
    · rcases mem_setEntry member with rfl | old
      · exact isName
      · exact names entry old
    · rcases mem_setEntry member with rfl | old
      · exact newWellFormed
      · exact below entry old

/-- A tree stays well formed when a well-formed node is placed in one of its directories. -/
theorem WellFormed.place (wellFormed : node.WellFormed)
    (inside : node.at? location = some (.directory entries)) (isName : IsName name)
    (newWellFormed : new.WellFormed) : (node.place (location ++ [name]) new).WellFormed := by
  induction location generalizing node with
  | nil =>
    obtain rfl : node = .directory entries := by simpa using inside
    rw [List.nil_append, place_singleton]
    exact wellFormed.setEntry isName newWellFormed
  | cons first location ih =>
    cases node with
    | file content => simp at inside
    | link target => simp at inside
    | directory children =>
      rw [at?_cons] at inside
      obtain ⟨child, found, inside⟩ := Option.bind_eq_some_iff.mp inside
      obtain ⟨firstName, childWellFormed⟩ := wellFormed.entry found
      rw [List.cons_append, place_cons found]
      exact wellFormed.setEntry firstName (ih childWellFormed inside)

end Node

/-- A file system as there can be: a well-formed tree of directories, in which the working directory
is a directory. -/
structure FileSystem.WellFormed (files : FileSystem) : Prop where
  tree : files.root.WellFormed
  top : ∃ entries, files.root = .directory entries
  home : ∃ entries, files.root.at? files.workingDirectory = some (.directory entries)

namespace FileSystem

/-- Whether a file system is as there can be. -/
def isWellFormed (files : FileSystem) : Bool :=
  files.root.isWellFormed && files.root.isDirectory &&
    (files.root.at? files.workingDirectory).any Node.isDirectory

theorem isWellFormed_iff {files : FileSystem} : files.isWellFormed ↔ files.WellFormed := by
  have directory : ∀ node : Node, node.isDirectory ↔ ∃ entries, node = .directory entries := by
    rintro (content | text | entries) <;> simp [Node.isDirectory]
  simp only [isWellFormed, Bool.and_eq_true, Node.isWellFormed_iff, directory, Option.any_eq_true]
  constructor
  · rintro ⟨⟨tree, top⟩, node, home, entries, rfl⟩
    exact ⟨tree, top, entries, home⟩
  · rintro ⟨tree, top, entries, home⟩
    exact ⟨⟨tree, top⟩, _, home, entries, rfl⟩

instance (files : FileSystem) : Decidable files.WellFormed := decidable_of_iff _ isWellFormed_iff

/-- A file is not the root, so it stands in a directory, under a name that an entry can have. -/
theorem WellFormed.exists_directory {files : FileSystem} {location : Location}
    {content : List UInt8} (wellFormed : files.WellFormed)
    (there : files.root.at? location = some (.file content)) :
    ∃ directory name entries, location = directory ++ [name] ∧ Node.IsName name ∧
      files.root.at? directory = some (.directory entries) := by
  rcases List.eq_nil_or_concat location with rfl | ⟨directory, name, rfl⟩
  · obtain ⟨above, top⟩ := wellFormed.top
    rw [top, Node.at?_nil] at there
    cases there
  · rw [List.concat_eq_append] at there ⊢
    obtain ⟨entries, inside⟩ := Node.exists_directory_of_at?_append (by simp) there
    exact ⟨directory, name, entries, rfl, (wellFormed.tree.at? there).2 name (by simp), inside⟩

end FileSystem

end CounterTrace
