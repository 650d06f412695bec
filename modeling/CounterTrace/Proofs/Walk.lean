import Mathlib.Data.List.Lex
import Mathlib.Data.List.Nodup
import Mathlib.Data.String.Basic
import CounterTrace.ControlFile.Discovery
import CounterTrace.Proofs.Trees

/-!
# The walk through a directory tree

The visits of a tree follow one list: its directories, each with its place, parents before children
and both in the order of names. A search takes the visits up to the first fault, so that what stands
behind a directory that cannot be listed does not matter; up to there its visits are those of the
listed directories one after another.

## Main definitions

* `Node.directories` — the directories of a tree in the order of the walk
* `Visit.ofDirectory`, `Visit.ofReached` — the visits in one directory, and at one place of the walk
* `Visit.upToFault` — visits up to the first that ends a search

## Main results

* `Node.mem_directories` — the walk reaches every directory at its place, and nothing else
* `Node.pairwise_directories`, `Node.nodup_directories` — in the order of the places, and each once
* `Visit.upToFault_visits` — the visits of a tree are those of its directories in order
* `Visit.gather_congr` — a search depends on nothing behind the first fault
-/

namespace CounterTrace

variable {files : FileSystem} {entries children : List (String × Node)} {name path : String}
  {node : Node} {location : Location}

/-! ### Directories inside directories -/

/-- The entries that are themselves directories, with what is in them. -/
def realDirectories (entries : List (String × Node)) : List (String × List (String × Node)) :=
  entries.filterMap fun
    | (name, .directory children) => some (name, children)
    | _ => none

theorem mem_realDirectories :
    (name, children) ∈ realDirectories entries ↔ (name, Node.directory children) ∈ entries := by
  rw [realDirectories, List.mem_filterMap]
  constructor
  · rintro ⟨⟨first, content | text | inner⟩, member, same⟩
    · cases same
    · cases same
    · obtain ⟨rfl, rfl⟩ := Prod.mk.inj (Option.some_inj.mp same)
      exact member
  · intro member
    exact ⟨_, member, rfl⟩

theorem realDirectories_sublist (entries : List (String × Node)) :
    ((realDirectories entries).map (·.1)).Sublist (entries.map (·.1)) := by
  induction entries with
  | nil => exact List.Sublist.refl _
  | cons entry entries ih =>
    obtain ⟨first, content | text | inner⟩ := entry
    · exact ih.cons _
    · exact ih.cons _
    · exact ih.cons_cons _

/-- What holds of a directory as soon as it holds of the directories in it holds of all. -/
theorem Node.directory_induction {motive : List (String × Node) → Prop}
    (step : ∀ entries, (∀ name children, (name, Node.directory children) ∈ entries →
      motive children) → motive entries) (entries : List (String × Node)) : motive entries := by
  refine step entries fun name children member => ?_
  -- A directory is smaller than the list of entries in which it stands.
  have smaller : sizeOf children < sizeOf entries := by
    have inside := List.sizeOf_lt_of_mem member
    simp only [Prod.mk.sizeOf_spec, Node.directory.sizeOf_spec] at inside
    omega
  exact Node.directory_induction step children
termination_by sizeOf entries

/-- Sorting by name does not look at what is named. -/
theorem sortByName_map {α β : Type} (content : String × α → β) (named : List (String × α)) :
    sortByName (named.map fun entry => (entry.1, content entry)) =
      (sortByName named).map fun entry => (entry.1, content entry) := by
  symm
  exact List.map_mergeSort fun _ _ _ _ => rfl

/-- What is in the order of its names already is not changed. -/
theorem sortByName_of_pairwise {α : Type} {named : List (String × α)}
    (ordered : named.Pairwise fun a b => a.1 ≤ b.1) : sortByName named = named :=
  List.mergeSort_of_pairwise (ordered.imp decide_eq_true)

theorem mem_sortByName {α : Type} {named : List (String × α)} {entry : String × α} :
    entry ∈ sortByName named ↔ entry ∈ named :=
  List.mem_mergeSort

theorem sortByName_perm {α : Type} (named : List (String × α)) :
    (sortByName named).Perm named :=
  List.mergeSort_perm _ _

/-- Things with different names come in the strict order of the names. -/
theorem pairwise_sortByName {α : Type} {named : List (String × α)}
    (distinct : (named.map (·.1)).Nodup) : (sortByName named).Pairwise fun a b => a.1 < b.1 := by
  have transitive (a b c : String × α) (first : decide (a.1 ≤ b.1)) (second : decide (b.1 ≤ c.1)) :
      decide (a.1 ≤ c.1) := by
    rw [decide_eq_true_eq] at first second ⊢
    exact String.le_trans first second
  have total (a b : String × α) : decide (a.1 ≤ b.1) || decide (b.1 ≤ a.1) := by
    rw [Bool.or_eq_true, decide_eq_true_eq, decide_eq_true_eq]
    exact String.le_total a.1 b.1
  have ordered : (sortByName named).Pairwise fun a b => decide (a.1 ≤ b.1) :=
    List.pairwise_mergeSort transitive total named
  have apart : (sortByName named).Pairwise fun a b => a.1 ≠ b.1 :=
    List.pairwise_map.mp (((sortByName_perm named).map _).nodup_iff.mpr distinct)
  refine (ordered.and apart).imp fun {a b} both => ?_
  exact lt_of_le_of_ne (of_decide_eq_true both.1) both.2

/-! ### The directories in the order of the walk -/

mutual

/-- The directories of a tree in the order in which a walk reaches them, each with its place below
the tree and its entries: a directory before those in it, and those in the order of their names. -/
def Node.directories : Node → List (Location × List (String × Node))
  | .file _ => []
  | .link _ => []
  | .directory entries => ([], entries) :: (sortByName (subDirectories entries)).flatMap (·.2)

/-- The directories below each entry, with the name of the entry. -/
def subDirectories :
    List (String × Node) → List (String × List (Location × List (String × Node)))
  | [] => []
  | (name, .directory entries) :: rest =>
    (name, (Node.directories (.directory entries)).map fun reached =>
      (name :: reached.1, reached.2)) :: subDirectories rest
  | _ :: rest => subDirectories rest

end

/-- The directories below an entry, as seen from the directory above. -/
def Node.directoriesFrom (name : String) (entries : List (String × Node)) :
    List (Location × List (String × Node)) :=
  (Node.directories (.directory entries)).map fun reached => (name :: reached.1, reached.2)

private theorem subDirectories_eq_map (entries : List (String × Node)) :
    subDirectories entries =
      (realDirectories entries).map fun entry =>
        (entry.1, Node.directoriesFrom entry.1 entry.2) := by
  induction entries with
  | nil => rfl
  | cons entry entries ih =>
    obtain ⟨first, content | text | inner⟩ := entry
    · exact ih
    · exact ih
    · rw [subDirectories, ih]
      rfl

theorem Node.directories_directory (entries : List (String × Node)) :
    Node.directories (.directory entries) =
      ([], entries) :: (sortByName (realDirectories entries)).flatMap fun entry =>
        Node.directoriesFrom entry.1 entry.2 := by
  rw [Node.directories, subDirectories_eq_map,
    sortByName_map fun entry => Node.directoriesFrom entry.1 entry.2, List.flatMap_map]

/-- The walk reaches every directory at its place, and nothing else. -/
theorem Node.mem_directories (wellFormed : (Node.directory entries).WellFormed) :
    (location, children) ∈ Node.directories (.directory entries) ↔
      (Node.directory entries).at? location = some (.directory children) := by
  -- The first name of a location says below which entry the walk reaches it.
  induction entries using Node.directory_induction generalizing location with
  | step entries ih =>
    rw [Node.directories_directory, List.mem_cons, List.mem_flatMap]
    cases location with
    | nil =>
      simp only [Node.at?_nil, Option.some_inj, Node.directory.injEq, Prod.mk.injEq, true_and]
      constructor
      · rintro (same | ⟨entry, -, inside⟩)
        · exact same.symm
        · simp [Node.directoriesFrom] at inside
      · exact fun same => Or.inl same.symm
    | cons name rest =>
      rw [Node.at?_cons, Option.bind_eq_some_iff]
      constructor
      · rintro (same | ⟨⟨first, inner⟩, member, inside⟩)
        · simp at same
        · rw [mem_sortByName, mem_realDirectories] at member
          obtain ⟨⟨place, reached⟩, below, same⟩ := List.mem_map.mp inside
          obtain ⟨⟨rfl, rfl⟩, rfl⟩ : (first = name ∧ place = rest) ∧ reached = children := by
            simpa using same
          cases wellFormed with
          | directory distinct names wellFormedBelow =>
            exact ⟨_, (lookup_eq_some_iff_mem distinct).mpr member,
              (ih first inner member (wellFormedBelow _ member)).mp below⟩
      · rintro ⟨child, found, there⟩
        have member := Node.mem_of_lookup found
        have childWellFormed := (wellFormed.entry found).2
        cases child with
        | file content => cases rest <;> simp at there
        | link target => cases rest <;> simp at there
        | directory inner =>
          refine Or.inr ⟨(name, inner), mem_sortByName.mpr (mem_realDirectories.mpr member), ?_⟩
          have below := (ih name inner member childWellFormed).mpr there
          exact List.mem_map.mpr ⟨_, below, rfl⟩

/-- The walk reaches the places in their order: a place before those below it, and those below
different entries in the order of the names. -/
theorem Node.pairwise_directories (wellFormed : (Node.directory entries).WellFormed) :
    (Node.directories (.directory entries)).Pairwise fun a b => a.1 < b.1 := by
  induction entries using Node.directory_induction with
  | step entries ih =>
    cases wellFormed with
    | directory distinct names below =>
      rw [Node.directories_directory, List.pairwise_cons, List.pairwise_flatMap]
      refine ⟨?_, ?_, ?_⟩
      · intro reached member
        obtain ⟨entry, -, inside⟩ := List.mem_flatMap.mp member
        obtain ⟨further, -, rfl⟩ := List.mem_map.mp inside
        exact List.nil_lt_cons _ _
      · rintro ⟨name, inner⟩ member
        rw [mem_sortByName, mem_realDirectories] at member
        rw [Node.directoriesFrom, List.pairwise_map]
        exact (ih name inner member (below _ member)).imp fun before =>
          List.cons_lt_cons_iff.mpr (Or.inr ⟨rfl, before⟩)
      · refine (pairwise_sortByName ((realDirectories_sublist entries).nodup distinct)).imp ?_
        intro first second before reached inFirst other inSecond
        obtain ⟨_, -, rfl⟩ := List.mem_map.mp inFirst
        obtain ⟨_, -, rfl⟩ := List.mem_map.mp inSecond
        exact List.cons_lt_cons_iff.mpr (Or.inl before)

/-- The walk reaches each place once. -/
theorem Node.nodup_directories (wellFormed : (Node.directory entries).WellFormed) :
    ((Node.directories (.directory entries)).map (·.1)).Nodup := by
  rw [List.Nodup, List.pairwise_map]
  exact (Node.pairwise_directories wellFormed).imp fun before => before.ne

/-! ### Visits up to the first fault -/

namespace Visit

/-- The control file of a visit, if it is one. -/
def file? : Visit → Option ControlFile
  | .found file => some file
  | _ => none

/-- The visits up to the first that ends a search, and that one. -/
def upToFault : List Visit → List Visit
  | [] => []
  | .found file :: rest => .found file :: upToFault rest
  | fault :: _ => [fault]

/-- The visits of the files and links in a directory, in the order of their names. -/
def ofDirectory (files : FileSystem) (path : String) (entries : List (String × Node)) :
    List Visit :=
  (sortByName (entries.filter fun entry => !entry.2.isDirectory)).flatMap fun entry =>
    ofEntry files path entry.1

/-- The visits at one place of a walk that starts at a path: those in the directory, or the refusal
to list it. The start itself has been listed. -/
def ofReached (files : FileSystem) (top : String) (reached : Location × List (String × Node)) :
    List Visit :=
  match if reached.1.isEmpty then none else files.obstacle? (Path.joinAll top reached.1) with
  | some error => [.refused error]
  | none => ofDirectory files (Path.joinAll top reached.1) reached.2

theorem upToFault_append_congr {before visits others : List Visit}
    (same : upToFault visits = upToFault others) :
    upToFault (before ++ visits) = upToFault (before ++ others) := by
  induction before with
  | nil => exact same
  | cons visit before ih =>
    cases visit with
    | found file => exact congrArg (Visit.found file :: ·) ih
    | refused error => rfl
    | failed failure => rfl

/-- Cutting at the first fault in front changes nothing. -/
theorem upToFault_upToFault_append (visits rest : List Visit) :
    upToFault (upToFault visits ++ rest) = upToFault (visits ++ rest) := by
  induction visits with
  | nil => rfl
  | cons visit visits ih =>
    cases visit with
    | found file => exact congrArg (Visit.found file :: ·) ih
    | refused error => rfl
    | failed failure => rfl

theorem upToFault_flatMap_congr {α : Type} {places : List α} {visits others : α → List Visit}
    (same : ∀ place ∈ places, upToFault (visits place) = upToFault (others place)) :
    upToFault (places.flatMap visits) = upToFault (places.flatMap others) := by
  induction places with
  | nil => rfl
  | cons place places ih =>
    rw [List.flatMap_cons, List.flatMap_cons]
    -- Equal up to the first fault is all that is known of the first place, so it is cut there.
    calc upToFault (visits place ++ places.flatMap visits)
        = upToFault (upToFault (visits place) ++ places.flatMap visits) :=
          (upToFault_upToFault_append _ _).symm
      _ = upToFault (upToFault (others place) ++ places.flatMap visits) := by
          rw [same place (by simp)]
      _ = upToFault (others place ++ places.flatMap visits) := upToFault_upToFault_append _ _
      _ = upToFault (others place ++ places.flatMap others) :=
          upToFault_append_congr (ih fun later member => same later (by simp [member]))

/-- The visits of a sub-directory: those in it, or the refusal to list it. -/
def ofSubdirectory (files : FileSystem) (path : String)
    (entry : String × List (String × Node)) : List Visit :=
  match files.obstacle? (Path.join path entry.1) with
  | some error => [.refused error]
  | none => Node.visits files (Path.join path entry.1) (.directory entry.2)

theorem ofSubdirectory_of_free {entry : String × List (String × Node)}
    (free : files.obstacle? (Path.join path entry.1) = none) :
    ofSubdirectory files path entry =
      Node.visits files (Path.join path entry.1) (.directory entry.2) := by
  rw [ofSubdirectory, free]

private theorem subVisits_eq_map (files : FileSystem) (path : String)
    (entries : List (String × Node)) :
    subVisits files path entries =
      (realDirectories entries).map fun entry => (entry.1, ofSubdirectory files path entry) := by
  induction entries with
  | nil => rfl
  | cons entry entries ih =>
    obtain ⟨first, content | text | inner⟩ := entry
    · exact ih
    · exact ih
    · rw [subVisits, ih]
      rfl

theorem visits_directory (files : FileSystem) (path : String) (entries : List (String × Node)) :
    Node.visits files path (.directory entries) = ofDirectory files path entries ++
      (sortByName (realDirectories entries)).flatMap (ofSubdirectory files path) := by
  rw [Node.visits, subVisits_eq_map, sortByName_map (ofSubdirectory files path), List.flatMap_map]
  rfl

/-- Up to the first fault, the visits of a tree are those of its directories in the order of the
walk. -/
theorem upToFault_visits (files : FileSystem) (path : String) (entries : List (String × Node)) :
    upToFault (Node.visits files path (.directory entries)) =
      upToFault ((Node.directories (.directory entries)).flatMap (ofReached files path)) := by
  induction entries using Node.directory_induction generalizing path with
  | step entries ih =>
    rw [visits_directory, Node.directories_directory, List.flatMap_cons, List.flatMap_assoc]
    refine upToFault_append_congr (upToFault_flatMap_congr ?_)
    rintro ⟨name, inner⟩ member
    rw [mem_sortByName, mem_realDirectories] at member
    rw [Node.directoriesFrom, List.flatMap_map, ofSubdirectory]
    cases obstacle : files.obstacle? (Path.join path name) with
    | some error =>
      -- The refused directory comes first among those below it.
      rw [Node.directories_directory, List.flatMap_cons]
      have refused : ofReached files path ([name], inner) = [.refused error] := by
        simp [ofReached, Path.joinAll, obstacle]
      simp [refused, upToFault]
    | none =>
      -- What is met at a place below the entry is what a walk from the entry meets there.
      have shifted : ∀ reached : Location × List (String × Node),
          ofReached files path (name :: reached.1, reached.2) =
            ofReached files (Path.join path name) reached := by
        rintro ⟨place, inside⟩
        cases place with
        | nil => simp [ofReached, Path.joinAll, obstacle]
        | cons first rest => simp [ofReached, Path.joinAll]
      simp only [shifted]
      exact ih name inner member (Path.join path name)

/-- A search depends on nothing behind the first fault. -/
theorem gather_congr {visits others : List Visit} (same : upToFault visits = upToFault others) :
    gather visits = gather others := by
  have cut : ∀ visits : List Visit, gather (upToFault visits) = gather visits := by
    intro visits
    induction visits with
    | nil => rfl
    | cons visit visits ih =>
      cases visit with
      | found file => rw [upToFault, gather, gather, ih]
      | refused error => rfl
      | failed failure => rfl
  rw [← cut visits, same, cut others]

end Visit

end CounterTrace
