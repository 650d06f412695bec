import Mathlib.Data.List.Sort
import CounterTrace.Proofs.Lockstep

/-!
# What a search depends on

A search looks at little of a file system: which directories there are, which files and links in
them have the name of a control file, and whether these lead to files. The order in which a
directory is listed does not matter, since both kinds of entries are visited in the order of their
names; and a file that is there or not does not matter if no name of a control file leads to it. So
two file systems that hold the same but for such files are searched with one report.

## Main definitions

* `Node.controlNames` — the names of control files in a directory, in order
* `Node.entriesAt` — the entries of the directory at a place

## Main results

* `Node.controlNames_congr` — they depend on what is in the directory, and not on its order
* `Node.flatMap_directories_congr` — a walk depends on the directories that there are
* `ControlFile.discover_congr_of_met` — two searches that meet the same in the same directories
* `ControlFile.discover_congr` — a search in two file systems that hold the same
-/

namespace CounterTrace

variable {files others : FileSystem} {root : Option String}
  {entries children otherEntries : List (String × Node)} {name path : String} {node : Node}
  {location place : Location} {changed : Location → Prop}

/-! ### Directories -/

namespace Node

/-- The names of control files among the files and links of a directory, in order. -/
def controlNames (entries : List (String × Node)) : List String :=
  ((sortByName (entries.filter fun entry => !entry.2.isDirectory)).map (·.1)).filter fun name =>
    controlFileId? name matches .ok (some _)

theorem mem_controlNames :
    name ∈ controlNames entries ↔
      (∃ id, controlFileId? name = .ok (some id)) ∧
        ∃ node, (name, node) ∈ entries ∧ node.isDirectory = false := by
  have named : (controlFileId? name matches .ok (some _)) = true ↔
      ∃ id, controlFileId? name = .ok (some id) := by
    rcases controlFileId? name with failure | _ | id <;> simp
  rw [controlNames, List.mem_filter, named, and_comm, List.mem_map]
  refine and_congr_right fun _ => ?_
  simp [mem_sortByName, List.mem_filter]

theorem pairwise_controlNames (distinct : (entries.map (·.1)).Nodup) :
    (controlNames entries).Pairwise (· < ·) := by
  have kept := (List.filter_sublist (l := entries)
    (p := fun entry => !entry.2.isDirectory)).map (fun entry => entry.1)
  exact (List.pairwise_map.mpr (pairwise_sortByName (kept.nodup distinct))).filter _

/-- The names of control files in a directory do not depend on the order in which it is listed. -/
theorem controlNames_congr (distinct : (entries.map (·.1)).Nodup)
    (otherDistinct : (otherEntries.map (·.1)).Nodup)
    (same : ∀ name id, controlFileId? name = .ok (some id) →
      ((∃ node, (name, node) ∈ otherEntries ∧ node.isDirectory = false) ↔
        ∃ node, (name, node) ∈ entries ∧ node.isDirectory = false)) :
    controlNames otherEntries = controlNames entries := by
  refine (pairwise_controlNames otherDistinct).eq_of_mem_iff (pairwise_controlNames distinct) ?_
  intro name
  rw [mem_controlNames, mem_controlNames]
  exact and_congr_right fun ⟨id, named⟩ => same name id named

/-- The entries of the directory at a place, if there is one. -/
def entriesAt (tree : Node) (location : Location) : Option (List (String × Node)) :=
  match tree.at? location with
  | some (.directory entries) => some entries
  | _ => none

/-- A walk depends on the directories that there are, and on what is met in each of them. -/
theorem flatMap_directories_congr {α : Type}
    {visit otherVisit : Location × List (String × Node) → List α}
    (wellFormed : (Node.directory entries).WellFormed)
    (otherWellFormed : (Node.directory otherEntries).WellFormed)
    (places : ∀ location,
      (∃ children, (Node.directory otherEntries).at? location = some (.directory children)) ↔
        ∃ children, (Node.directory entries).at? location = some (.directory children))
    (same : ∀ location children otherChildren,
      (Node.directory entries).at? location = some (.directory children) →
        (Node.directory otherEntries).at? location = some (.directory otherChildren) →
        otherVisit (location, otherChildren) = visit (location, children)) :
    (directories (.directory otherEntries)).flatMap otherVisit =
      (directories (.directory entries)).flatMap visit := by
  -- What is met at a place, as a function of the place: this makes the two walks comparable.
  have met {tree : List (String × Node)} (treeWellFormed : (Node.directory tree).WellFormed)
      (visit : Location × List (String × Node) → List α) :
      (directories (.directory tree)).flatMap visit =
        ((directories (.directory tree)).map (·.1)).flatMap fun location =>
          ((Node.directory tree).entriesAt location).elim [] fun children =>
            visit (location, children) := by
    rw [List.flatMap_map]
    refine List.flatMap_congr fun reached member => ?_
    rw [entriesAt, (mem_directories treeWellFormed).mp member]
    rfl
  have walk : (directories (.directory otherEntries)).map (·.1) =
      (directories (.directory entries)).map (·.1) := by
    refine (List.pairwise_map.mpr (pairwise_directories otherWellFormed)).eq_of_mem_iff
      (List.pairwise_map.mpr (pairwise_directories wellFormed)) fun location => ?_
    simpa [mem_directories wellFormed, mem_directories otherWellFormed] using places location
  rw [met wellFormed, met otherWellFormed, walk]
  refine List.flatMap_congr fun location member => ?_
  obtain ⟨⟨location, children⟩, reached, rfl⟩ := List.mem_map.mp member
  have there := (mem_directories wellFormed).mp reached
  obtain ⟨otherChildren, otherThere⟩ := (places location).mpr ⟨children, there⟩
  simp only [entriesAt, there, otherThere, Option.elim_some]
  exact same location children otherChildren there otherThere

end Node

/-! ### Visits -/

/-- What is met in a directory is met at the names of control files. -/
theorem Visit.ofDirectory_eq (wellFormed : (Node.directory entries).WellFormed) :
    Visit.ofDirectory files path entries =
      (Node.controlNames entries).flatMap (Visit.ofEntry files path) := by
  have isName : ∀ entry ∈ sortByName (entries.filter fun entry => !entry.2.isDirectory),
      Node.IsName entry.1 := fun entry member =>
    wellFormed.isName (List.mem_filter.mp (mem_sortByName.mp member)).1
  rw [Visit.ofDirectory, Node.controlNames]
  generalize sortByName (entries.filter fun entry => !entry.2.isDirectory) = listed at isName
  induction listed with
  | nil => rfl
  | cons entry listed ih =>
    rw [List.forall_mem_cons] at isName
    obtain ⟨answer, known⟩ := isName.1.exists_controlFileId?_eq_ok
    rw [List.flatMap_cons, List.map_cons, List.filter_cons, known, ih isName.2]
    cases answer with
    | none =>
      have nothing : Visit.ofEntry files path entry.1 = [] := by rw [Visit.ofEntry, known]
      rw [nothing]
      rfl
    | some id => rfl

/-! ### One search in two file systems -/

namespace FileSystem.SameBut

variable {root other : Node}

/-- Both trees have the same directories. -/
theorem directory_iff (same : SameBut changed root other) (place : Location) :
    (∃ children, other.at? place = some (.directory children)) ↔
      ∃ children, root.at? place = some (.directory children) := by
  by_cases there : changed place
  · -- At a changed place neither tree has one.
    obtain ⟨content, now⟩ := same.after place there
    refine ⟨fun ⟨children, found⟩ => (by cases now.symm.trans found), fun ⟨children, found⟩ => ?_⟩
    obtain ⟨content, wrong⟩ := same.before place _ there found
    cases wrong
  · rcases same.at?_cases there with ⟨before, after⟩ | ⟨content, before, after⟩ |
      ⟨text, before, after⟩ | ⟨entries, others, before, after⟩ <;> simp [before, after]

/-- Both trees have the same files and links, but for the changed places. -/
theorem leaf_iff (same : SameBut changed root other) (unchanged : ¬ changed place) :
    (∃ node, other.at? place = some node ∧ node.isDirectory = false) ↔
      ∃ node, root.at? place = some node ∧ node.isDirectory = false := by
  rcases same.at?_cases unchanged with ⟨before, after⟩ | ⟨content, before, after⟩ |
    ⟨text, before, after⟩ | ⟨entries, others, before, after⟩ <;>
    simp [before, after, Node.isDirectory]

end FileSystem.SameBut

namespace ControlFile

theorem searchPath_congr (equal : FileSystem.EqualBut changed files others)
    (root : Option String) : searchPath others root = searchPath files root := by
  cases root with
  | some path => rfl
  | none => rw [searchPath, searchPath, equal.workingDirectory]

theorem searchRoot_congr (equal : FileSystem.EqualBut changed files others)
    (root : Option String) : searchRoot others root = searchRoot files root := by
  rw [searchRoot_eq, searchRoot_eq, searchPath_congr equal]

/-- Directories that stand at one place in both file systems hold the same names of control files,
unless one of them stands at a changed place. -/
theorem controlNames_sameBut (wellFormed : files.root.WellFormed)
    (otherWellFormed : others.root.WellFormed)
    (same : FileSystem.SameBut changed files.root others.root)
    (reached : files.root.at? place = some (.directory children))
    (otherReached : others.root.at? place = some (.directory otherEntries))
    (apart : ∀ name node id, (name, node) ∈ otherEntries → node.isDirectory = false →
      controlFileId? name = .ok (some id) → ¬ changed (place ++ [name])) :
    Node.controlNames otherEntries = Node.controlNames children := by
  cases (wellFormed.at? reached).1 with
  | directory distinct =>
  cases (otherWellFormed.at? otherReached).1 with
  | directory otherDistinct =>
  refine Node.controlNames_congr distinct otherDistinct fun name id named => ?_
  simp only [Node.mem_iff_at? wellFormed reached, Node.mem_iff_at? otherWellFormed otherReached]
  by_cases there : changed (place ++ [name])
  · obtain ⟨content, now⟩ := same.after _ there
    have member := (Node.mem_iff_at? otherWellFormed otherReached).mpr now
    exact absurd there (apart name _ id member rfl named)
  · exact same.leaf_iff there

/-- What is met at a place is met there in both file systems, if the directory there has the same
obstacle and the same names of control files, and these are tested with the same answers. -/
theorem ofReached_congr {top : Path} (tidy : top.Tidy)
    (wellFormed : (Node.directory children).WellFormed)
    (otherWellFormed : (Node.directory otherEntries).WellFormed)
    (names : ∀ above ∈ location, Node.IsName above)
    (obstacle : others.obstacle? (Path.joinAll top.text location) =
      files.obstacle? (Path.joinAll top.text location))
    (same : Node.controlNames otherEntries = Node.controlNames children)
    (tested : ∀ name node id, (name, node) ∈ otherEntries → node.isDirectory = false →
      controlFileId? name = .ok (some id) →
        others.isFile (candidatePath top (location, name)) =
          files.isFile (candidatePath top (location, name))) :
    Visit.ofReached others top.text (location, otherEntries) =
      Visit.ofReached files top.text (location, children) := by
  have shown : Path.ofString (Path.joinAll top.text location) = top.descend location :=
    Path.ofString_joinAll_text tidy fun name inside => (names name inside).piece
  have inside : Visit.ofDirectory others (Path.joinAll top.text location) otherEntries =
      Visit.ofDirectory files (Path.joinAll top.text location) children := by
    rw [Visit.ofDirectory_eq otherWellFormed, Visit.ofDirectory_eq wellFormed, ← same]
    refine List.flatMap_congr fun name member => ?_
    obtain ⟨⟨id, named⟩, node, entry, leaf⟩ := Node.mem_controlNames.mp member
    have answer := tested name node id entry leaf named
    rw [candidatePath] at answer
    rw [Visit.ofEntry, Visit.ofEntry, named, shown]
    dsimp only
    rw [answer]
  simp only [Visit.ofReached, obstacle, inside]

/-- Two searches that start in one place, can both be started there or cannot, go through the same
directories and meet the same in each of them give one report. -/
theorem discover_congr_of_met (wellFormed : files.WellFormed) (otherWellFormed : others.WellFormed)
    (root_eq : searchRoot others root = searchRoot files root)
    (barred : others.isBarred (searchRoot files root) = files.isBarred (searchRoot files root))
    (start : files.target .find (searchRoot files root) = .ok (.present place (.directory entries)))
    (otherStart : others.target .find (searchRoot files root) =
      .ok (.present place (.directory otherEntries)))
    (directories : ∀ here, (∃ children, others.root.at? here = some (.directory children)) ↔
      ∃ children, files.root.at? here = some (.directory children))
    (met : ∀ location children otherChildren,
      files.root.at? (place ++ location) = some (.directory children) →
        others.root.at? (place ++ location) = some (.directory otherChildren) →
        (Node.directory entries).at? location = some (.directory children) →
        Visit.ofReached others (searchRoot files root) (location, otherChildren) =
          Visit.ofReached files (searchRoot files root) (location, children)) :
    discover others root = discover files root := by
  -- The tree that is searched stands below the place of its root.
  have here : files.root.at? place = some (.directory entries) := FileSystem.at?_of_target start
  have otherHere : others.root.at? place = some (.directory otherEntries) :=
    FileSystem.at?_of_target otherStart
  have below (location : Location) :
      files.root.at? (place ++ location) = (Node.directory entries).at? location :=
    Node.at?_append_of_at? here
  have otherBelow (location : Location) :
      others.root.at? (place ++ location) = (Node.directory otherEntries).at? location :=
    Node.at?_append_of_at? otherHere
  have visits : Visit.upToFault (searchVisits others (searchRoot others root)) =
      Visit.upToFault (searchVisits files (searchRoot files root)) := by
    rw [searchVisits, searchVisits, root_eq, FileSystem.list, FileSystem.list, barred, start,
      otherStart]
    cases files.isBarred (searchRoot files root) with
    | true => rfl
    | false =>
      simp only [Bool.false_eq_true, if_false]
      rw [Visit.upToFault_visits others, Visit.upToFault_visits files]
      refine congrArg Visit.upToFault (Node.flatMap_directories_congr
        (wellFormed.tree.at? here).1 (otherWellFormed.tree.at? otherHere).1 (fun location => ?_)
        fun location children otherChildren reached otherReached => ?_)
      · simpa only [below, otherBelow] using directories (place ++ location)
      · exact met location children otherChildren ((below location).trans reached)
          ((otherBelow location).trans otherReached) reached
  rw [discover, discover, Visit.gather_congr visits]

/-- A search in two file systems that hold the same gives one report. At places that have changed no
name of a control file stands below the root, and none leads there from below it. -/
theorem discover_congr (wellFormed : files.WellFormed) (otherWellFormed : others.WellFormed)
    (equal : FileSystem.EqualBut changed files others)
    (start : files.target .find (searchRoot files root) = .ok (.present place (.directory entries)))
    (apart : ∀ location children name node id,
      others.root.at? (place ++ location) = some (.directory children) →
        (name, node) ∈ children → node.isDirectory = false →
        controlFileId? name = .ok (some id) →
        ¬ changed (place ++ location ++ [name]) ∧
          ∀ there last, changed there →
            others.target .find (candidatePath (searchPath files root) (location, name)) ≠
              .ok (.present there last)) :
    discover others root = discover files root := by
  obtain ⟨otherEntries, otherStart⟩ := equal.target_directory start
  refine discover_congr_of_met wellFormed otherWellFormed (searchRoot_congr equal root)
    (equal.isBarred_eq _) start otherStart equal.trees.directory_iff ?_
  intro location children otherChildren reached otherReached inTree
  have same : Node.controlNames otherChildren = Node.controlNames children :=
    controlNames_sameBut wellFormed.tree otherWellFormed.tree equal.trees reached otherReached
      fun name node id inside leaf named =>
        (apart location _ name node id otherReached inside leaf named).1
  have names := ((wellFormed.tree.at? (FileSystem.at?_of_target start)).1.at? inTree).2
  rw [searchRoot_eq]
  refine ofReached_congr (tidy_searchPath wellFormed) (wellFormed.tree.at? reached).1
    (otherWellFormed.tree.at? otherReached).1 names (equal.obstacle?_eq _) same ?_
  exact fun name node id inside leaf named =>
    equal.isFile_eq (apart location _ name node id otherReached inside leaf named).2

end ControlFile

end CounterTrace
