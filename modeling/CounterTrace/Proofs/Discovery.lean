import Mathlib.Data.List.Flatten
import Mathlib.Data.Prod.Basic
import CounterTrace.Proofs.Numerals
import CounterTrace.Proofs.Resolution
import CounterTrace.Proofs.Walk

/-!
# What a search for control files finds

A search that meets no fault finds exactly the control files below its root: every path from the
root through real directories to a name of the right form that leads to a file, each once, in the
order of identifier and path.

## Main definitions

* `ControlFile.searchPath` — the tidy path at which a search starts
* `FileSystem.LeadsToFile` — a path that leads to a file, the last link followed
* `ControlFile.Searchable` — a search that meets no fault
* `Node.candidates` — what a search tests, in the order of the walk
* `ControlFile.foundMessage`, `ControlFile.blockedMessage` — the messages of a search

## Main results

* `ControlFile.pairwise_precedes` — what is found is in order, whatever faults there are
* `ControlFile.discover_of_searchable` — what a search without faults finds
-/

namespace CounterTrace

variable {files : FileSystem} {root : Option String} {entries children : List (String × Node)}
  {name path : String} {node : Node} {location : Location}

namespace FileSystem

/-- A path leads to a file, if every link on the way is followed. -/
def LeadsToFile (files : FileSystem) (path : String) : Prop :=
  ∃ location content, files.target .find path = .ok (.present location (.file content))

theorem isFile_eq_true_iff : files.isFile path = .ok true ↔ files.LeadsToFile path := by
  rw [isFile, LeadsToFile]
  rcases files.target .find path with failure | ⟨place, content | text | inner⟩ | ⟨above, last⟩
  · rcases failure with _ | ⟨reason, shown⟩
    · simp
    · cases reason <;> simp
  all_goals simp

/-- A path can be tested if nothing is wrong with it but that it leads nowhere. -/
theorem exists_isFile_eq_ok
    (harmless : ∀ reason shown, files.target .find path = .error (.refused reason shown) →
      reason = .notFound ∨ reason = .notDirectory ∨ reason = .tooManyLinks) :
    ∃ answer, files.isFile path = .ok answer := by
  rw [isFile]
  rcases found : files.target .find path with failure | ⟨place, content | text | inner⟩ |
    ⟨above, last⟩
  · rcases failure with _ | ⟨reason, shown⟩
    · exact ⟨false, rfl⟩
    · rcases harmless reason shown found with rfl | rfl | rfl <;> exact ⟨false, rfl⟩
  all_goals exact ⟨_, rfl⟩

/-- When a directory can be listed. -/
theorem list_eq_ok_iff :
    files.list path = .ok entries ↔ files.isBarred path = false ∧
      ∃ location, files.target .find path = .ok (.present location (.directory entries)) := by
  rw [list]
  cases files.isBarred path with
  | true => simp
  | false =>
    rcases files.target .find path with failure | ⟨place, content | text | inner⟩ |
      ⟨directory, last⟩ <;> simp

theorem null_of_list (rejected : files.list path = .error .nullCharacter) :
    '\x00' ∈ path.toList := by
  rw [list] at rejected
  split at rejected
  · cases rejected
  · split at rejected
    · rename_i found
      obtain rfl := Except.error.inj rejected
      exact target_eq_nullCharacter_iff.mp found
    all_goals cases rejected

theorem wellFormed_of_list (wellFormed : files.WellFormed)
    (listed : files.list path = .ok entries) : (Node.directory entries).WellFormed := by
  obtain ⟨-, place, found⟩ := list_eq_ok_iff.mp listed
  exact (wellFormed.tree.at? (at?_of_target found)).1

/-- What can be listed has no obstacle before it. -/
theorem obstacle?_eq_none_of_list (listed : files.list path = .ok entries) :
    files.obstacle? path = none := by
  obtain ⟨unbarred, location, found⟩ := list_eq_ok_iff.mp listed
  obtain ⟨-, short, -, -⟩ := target_eq_ok_iff.mp found
  simp [obstacle?, unbarred, Nat.not_lt.mpr short]

end FileSystem

/-! ### Candidates -/

namespace Node

/-- What a search tests: the files and links in the directories of a tree, each with the place of
its directory, in the order of the walk. -/
def candidates (entries : List (String × Node)) : List (Location × String) :=
  (directories (.directory entries)).flatMap fun reached =>
    (sortByName (reached.2.filter fun entry => !entry.2.isDirectory)).map fun entry =>
      (reached.1, entry.1)

theorem mem_candidates (wellFormed : (Node.directory entries).WellFormed) :
    (location, name) ∈ candidates entries ↔
      ∃ children node, (Node.directory entries).at? location = some (.directory children) ∧
        (name, node) ∈ children ∧ node.isDirectory = false := by
  simp only [candidates, List.mem_flatMap, List.mem_map, mem_sortByName, List.mem_filter,
    Prod.exists, mem_directories wellFormed]
  constructor
  · rintro ⟨place, children, reached, first, node, ⟨member, leaf⟩, same⟩
    obtain ⟨rfl, rfl⟩ := Prod.mk.inj same
    exact ⟨children, node, reached, member, by simpa using leaf⟩
  · rintro ⟨children, node, reached, member, leaf⟩
    exact ⟨location, children, reached, name, node, ⟨member, by simpa using leaf⟩, rfl⟩

/-- No candidate is tested twice. -/
theorem nodup_candidates (wellFormed : (Node.directory entries).WellFormed) :
    (candidates entries).Nodup := by
  rw [candidates, List.nodup_flatMap]
  constructor
  -- In one directory the names are distinct; two directories have distinct places.
  · rintro ⟨place, children⟩ member
    have reached := (mem_directories wellFormed).mp member
    cases (wellFormed.at? reached).1 with
    | directory distinct names below =>
      have kept := (List.filter_sublist (l := children)
        (p := fun entry => !entry.2.isDirectory)).map (fun entry => entry.1)
      have sorted := ((sortByName_perm _).map (fun entry => entry.1)).nodup_iff.mpr
        (kept.nodup distinct)
      have apart := sorted.map (Prod.mk_right_injective place)
      simpa [Function.comp_def] using apart
  · have places := List.pairwise_map.mp (nodup_directories wellFormed)
    refine places.imp fun {first second} different => ?_
    intro place inFirst inSecond
    obtain ⟨_, -, rfl⟩ := List.mem_map.mp inFirst
    obtain ⟨_, -, same⟩ := List.mem_map.mp inSecond
    exact different (Prod.mk.inj same).1.symm

end Node

namespace ControlFile

/-- The tidy path at which a search starts. -/
def searchPath (files : FileSystem) : Option String → Path
  | some path => Path.ofString path
  | none => ⟨"/", files.workingDirectory⟩

theorem searchRoot_eq : searchRoot files root = (searchPath files root).text := by
  cases root <;> rfl

theorem tidy_searchPath (wellFormed : files.WellFormed) : (searchPath files root).Tidy := by
  cases root with
  | some path => exact Path.tidy_ofString path
  | none =>
    obtain ⟨entries, home⟩ := wellFormed.home
    refine ⟨Or.inr (Or.inl rfl), fun name member => ?_⟩
    exact ((wellFormed.tree.at? home).2 name member).piece

theorem null_notMem_searchRoot (wellFormed : files.WellFormed)
    (whole : ∀ path, root = some path → '\x00' ∉ path.toList) :
    '\x00' ∉ (searchRoot files root).toList := by
  cases root with
  | some path => exact Path.null_notMem_text_ofString (whole path rfl)
  | none =>
    obtain ⟨entries, home⟩ := wellFormed.home
    rw [searchRoot_eq]
    exact Path.null_notMem_text (tidy_searchPath wellFormed) fun name member =>
      ((wellFormed.tree.at? home).2 name member).whole

/-- The path of a candidate in a search that starts at a tidy path. -/
def candidatePath (top : Path) (place : Location × String) : String :=
  ((top.descend place.1).child place.2).text

/-- The control file that a candidate is, if it is one. -/
def ofCandidate (files : FileSystem) (top : Path) (place : Location × String) :
    Option ControlFile :=
  match controlFileId? place.2, files.isFile (candidatePath top place) with
  | .ok (some id), .ok true => some (ofPath (candidatePath top place) id)
  | _, _ => none

theorem ofCandidate_eq_some_iff {top : Path} {place : Location × String} {file : ControlFile} :
    ofCandidate files top place = some file ↔
      ∃ id, controlFileId? place.2 = .ok (some id) ∧
        files.LeadsToFile (candidatePath top place) ∧
        file = ofPath (candidatePath top place) id := by
  rw [ofCandidate, ← FileSystem.isFile_eq_true_iff]
  rcases controlFileId? place.2 with failure | _ | id <;>
    rcases files.isFile (candidatePath top place) with error | _ | _ <;> simp [eq_comm]

/-- A search that meets no fault: the root can be listed, and so can every directory below it that
is reached through real directories, and every file or link in them whose name is that of a control
file can be tested. -/
structure Searchable (files : FileSystem) (root : Option String)
    (entries : List (String × Node)) : Prop where
  listed : files.list (searchRoot files root) = .ok entries
  below : ∀ location children,
    (Node.directory entries).at? location = some (.directory children) →
      ∃ listed, files.list (Path.joinAll (searchRoot files root) location) = .ok listed
  tested : ∀ location children name node id,
    (Node.directory entries).at? location = some (.directory children) →
      (name, node) ∈ children → node.isDirectory = false → controlFileId? name = .ok (some id) →
      ∀ reason path,
        files.target .find (candidatePath (searchPath files root) (location, name)) =
            .error (.refused reason path) →
          reason = .notFound ∨ reason = .notDirectory ∨ reason = .tooManyLinks

theorem Searchable.wellFormed (wellFormed : files.WellFormed)
    (searchable : Searchable files root entries) : (Node.directory entries).WellFormed :=
  FileSystem.wellFormed_of_list wellFormed searchable.listed

/-! ### A search without faults -/

/-- What is met at a name that can be tested is the control file that it is, if it is one. -/
theorem ofEntry_of_tested {top : Path} {directory : String}
    (same : Path.ofString directory = top.descend location) (valid : Node.IsName name)
    (tested : ∀ id, controlFileId? name = .ok (some id) →
      ∃ answer, files.isFile (candidatePath top (location, name)) = .ok answer) :
    Visit.ofEntry files directory name =
      ((ofCandidate files top (location, name)).map Visit.found).toList := by
  obtain ⟨answer, read⟩ := valid.exists_controlFileId?_eq_ok
  rw [Visit.ofEntry, ofCandidate, same]
  rcases named : controlFileId? name with failure | _ | id
  · cases named.symm.trans read
  · rfl
  · obtain ⟨answer, known⟩ := tested id named
    rw [candidatePath] at known
    cases answer <;> simp [candidatePath, known]

/-- The visits of a search that meets no fault are the candidates that are control files. -/
private theorem flatMap_ofReached {top : Path} (tidy : top.Tidy)
    (wellFormed : (Node.directory entries).WellFormed)
    (free : ∀ location children,
      (Node.directory entries).at? location = some (.directory children) →
        location ≠ [] → files.obstacle? (Path.joinAll top.text location) = none)
    (tested : ∀ location children name node id,
      (Node.directory entries).at? location = some (.directory children) →
        (name, node) ∈ children → node.isDirectory = false →
        controlFileId? name = .ok (some id) →
        ∃ answer, files.isFile (candidatePath top (location, name)) = .ok answer) :
    (Node.directories (.directory entries)).flatMap (Visit.ofReached files top.text) =
      ((Node.candidates entries).filterMap (ofCandidate files top)).map Visit.found := by
  rw [Node.candidates, List.filterMap_flatMap, List.map_flatMap]
  -- Directory by directory, and in each of them entry by entry.
  refine List.flatMap_congr fun reached member => ?_
  obtain ⟨location, children⟩ := reached
  have there := (Node.mem_directories wellFormed).mp member
  obtain ⟨childrenWellFormed, isName⟩ := wellFormed.at? there
  have unbarred : (if location.isEmpty then none
      else files.obstacle? (Path.joinAll top.text location)) = none := by
    cases location with
    | nil => rfl
    | cons name rest => exact free _ _ there (by simp)
  have same : Path.ofString (Path.joinAll top.text location) = top.descend location :=
    Path.ofString_joinAll_text tidy fun name inside => (isName name inside).piece
  simp only [Visit.ofReached, unbarred, Visit.ofDirectory]
  rw [List.filterMap_map, List.map_filterMap, List.filterMap_eq_flatMap_toList]
  refine List.flatMap_congr fun entry inside => ?_
  obtain ⟨inside, leaf⟩ := List.mem_filter.mp (mem_sortByName.mp inside)
  exact ofEntry_of_tested same (childrenWellFormed.isName inside) fun id named =>
    tested _ _ _ _ id there inside (by simpa using leaf) named

/-! ### What is gathered -/

/-- The message that a control file has been found. -/
def foundMessage (file : ControlFile) : Message :=
  ⟨.debug, "Found ASM file: " ++ file.path ++ " (id=" ++ Numeral.text file.id ++ ", uc=" ++
    Numeral.text file.microController ++ ", columns " ++ Numeral.text file.firstColumn ++ "-" ++
    Numeral.text file.lastColumn ++ ")"⟩

/-- The warning with which a search ends at a directory that cannot be listed. -/
def blockedMessage (error : AccessError) : Message :=
  ⟨.warning, "Error searching for ASM files: " ++ error.message⟩

/-- Control files that come first among the visits are found, with a message each. -/
theorem gather_found_append (found : List ControlFile) (rest : List Visit) :
    Visit.gather (found.map Visit.found ++ rest) =
      ⟨found.map foundMessage ++ (Visit.gather rest).messages,
        (Visit.gather rest).result.map (found ++ ·)⟩ := by
  induction found with
  | nil =>
    rw [List.map_nil, List.nil_append, List.map_nil, List.nil_append]
    rcases Visit.gather rest with ⟨messages, failure | more⟩ <;> rfl
  | cons file found ih =>
    rw [List.map_cons, List.cons_append, Visit.gather, ih]
    rcases Visit.gather rest with ⟨messages, failure | more⟩ <;>
      simp [Report.tell, foundMessage, Except.map]

theorem gather_found (found : List ControlFile) :
    Visit.gather (found.map Visit.found) = ⟨found.map foundMessage, .ok found⟩ := by
  have all := gather_found_append found []
  rw [List.append_nil] at all
  rw [all]
  simp [Visit.gather, Except.map]

theorem gather_found_refused (found : List ControlFile) (error : AccessError) (rest : List Visit) :
    Visit.gather (found.map Visit.found ++ .refused error :: rest) =
      ⟨found.map foundMessage ++ [blockedMessage error], .ok found⟩ := by
  rw [gather_found_append]
  simp [Visit.gather, Except.map, Report.tell, blockedMessage]

/-! ### The order of what is found -/

theorem precedes_iff {a b : ControlFile} :
    a.precedes b ↔ a.id < b.id ∨ a.id = b.id ∧ a.path ≤ b.path := by
  simp [precedes]

private theorem precedes_trans (a b c : ControlFile) (first : a.precedes b)
    (second : b.precedes c) : a.precedes c := by
  rw [precedes_iff] at first second ⊢
  rcases first with below | ⟨same, path⟩
  · rcases second with further | ⟨equal, -⟩
    · exact Or.inl (by omega)
    · exact Or.inl (by omega)
  · rcases second with further | ⟨equal, beyond⟩
    · exact Or.inl (by omega)
    · exact Or.inr ⟨by omega, String.le_trans path beyond⟩

private theorem precedes_total (a b : ControlFile) : a.precedes b || b.precedes a := by
  rw [Bool.or_eq_true, precedes_iff, precedes_iff]
  rcases Int.lt_trichotomy a.id b.id with below | same | above
  · exact Or.inl (Or.inl below)
  · rcases String.le_total a.path b.path with path | path
    · exact Or.inl (Or.inr ⟨same, path⟩)
    · exact Or.inr (Or.inr ⟨same.symm, path⟩)
  · exact Or.inr (Or.inl above)

/-- What is found is in the order of identifier and path, whatever faults the search has met. -/
theorem pairwise_precedes {found : List ControlFile}
    (known : (discover files root).result = .ok found) :
    found.Pairwise fun a b => a.precedes b := by
  obtain ⟨gathered, -, same⟩ := Report.bind_result_eq_ok.mp known
  obtain rfl : gathered.mergeSort precedes = found := Except.ok.inj same
  exact List.pairwise_mergeSort precedes_trans precedes_total gathered

/-! ### What is found -/

/-- Two candidates of one search have different paths. -/
theorem candidatePath_inj {top : Path} {place other : Location × String} (tidy : top.Tidy)
    (names : ∀ name ∈ place.1, Path.IsPiece name) (last : Path.IsPiece place.2)
    (otherNames : ∀ name ∈ other.1, Path.IsPiece name) (otherLast : Path.IsPiece other.2)
    (same : candidatePath top place = candidatePath top other) : place = other := by
  -- Tidy paths with one text are one path, and the names of a path fall apart in one way only.
  have paths := Path.Tidy.text_inj ((tidy.descend names).child last)
    ((tidy.descend otherNames).child otherLast) same
  have all : top.names ++ place.1 ++ [place.2] = top.names ++ other.1 ++ [other.2] :=
    congrArg Path.names paths
  obtain ⟨front, back⟩ := List.append_inj' all rfl
  exact Prod.ext (List.append_cancel_left front) (List.cons.inj back).1

/-- The names on the way to a candidate are the names of entries. -/
theorem isName_of_mem_candidates (wellFormed : (Node.directory entries).WellFormed)
    (member : (location, name) ∈ Node.candidates entries) :
    (∀ above ∈ location, Node.IsName above) ∧ Node.IsName name := by
  obtain ⟨children, node, reached, inside, -⟩ := (Node.mem_candidates wellFormed).mp member
  obtain ⟨childrenWellFormed, names⟩ := wellFormed.at? reached
  exact ⟨names, childrenWellFormed.isName inside⟩

/-- The control files among the candidates have different paths. -/
theorem pairwise_path_ne (files : FileSystem) {top : Path} (tidy : top.Tidy)
    (wellFormed : (Node.directory entries).WellFormed) :
    ((Node.candidates entries).filterMap (ofCandidate files top)).Pairwise
      fun a b => a.path ≠ b.path := by
  rw [List.pairwise_filterMap]
  refine (Node.nodup_candidates wellFormed).imp_of_mem ?_
  intro place other member otherMember different a known b otherKnown same
  obtain ⟨id, -, -, rfl⟩ := ofCandidate_eq_some_iff.mp known
  obtain ⟨otherId, -, -, rfl⟩ := ofCandidate_eq_some_iff.mp otherKnown
  obtain ⟨names, last⟩ := isName_of_mem_candidates wellFormed member
  obtain ⟨otherNames, otherLast⟩ := isName_of_mem_candidates wellFormed otherMember
  exact different (candidatePath_inj tidy (fun name inside => (names name inside).piece) last.piece
    (fun name inside => (otherNames name inside).piece) otherLast.piece same)

/-! ### A search with faults -/

/-- A search that gives a result has gathered some of the control files among its visits, in the
order of the visits. -/
theorem gather_sublist {visits : List Visit} {found : List ControlFile}
    (known : (Visit.gather visits).result = .ok found) :
    found.Sublist (visits.filterMap Visit.file?) := by
  -- A refusal ends the search with what was found before it, and a failure gives no result.
  induction visits generalizing found with
  | nil =>
    obtain rfl := Except.ok.inj known
    exact List.Sublist.refl _
  | cons visit visits ih =>
    cases visit with
    | found file =>
      rw [Visit.gather, Report.bind_result_eq_ok] at known
      obtain ⟨-, -, known⟩ := known
      rw [Report.bind_result_eq_ok] at known
      obtain ⟨more, gathered, same⟩ := known
      obtain rfl : file :: more = found := Except.ok.inj same
      exact (ih gathered).cons_cons file
    | refused error =>
      rw [Visit.gather, Report.bind_result_eq_ok] at known
      obtain ⟨-, -, same⟩ := known
      obtain rfl : [] = found := Except.ok.inj same
      exact List.nil_sublist _
    | failed failure => cases known

/-- A search fails only at a name that cannot be read. -/
theorem exists_gather_eq_ok {visits : List Visit}
    (read : ∀ failure, Visit.failed failure ∉ visits) :
    ∃ found, (Visit.gather visits).result = .ok found := by
  induction visits with
  | nil => exact ⟨[], rfl⟩
  | cons visit visits ih =>
    cases visit with
    | found file =>
      obtain ⟨more, gathered⟩ := ih fun failure member => read failure (by simp [member])
      refine ⟨file :: more, ?_⟩
      rw [Visit.gather, Report.bind_result_eq_ok]
      refine ⟨(), rfl, ?_⟩
      rw [Report.bind_result_eq_ok]
      exact ⟨more, gathered, rfl⟩
    | refused error => exact ⟨[], rfl⟩
    | failed failure => exact absurd (List.mem_cons_self) (read failure)

/-- What is met at a candidate is the control file that it is, or no control file. -/
theorem filterMap_ofEntry {top : Path} {directory : String}
    (same : Path.ofString directory = top.descend location) :
    (Visit.ofEntry files directory name).filterMap Visit.file? =
      (ofCandidate files top (location, name)).toList := by
  rw [Visit.ofEntry, ofCandidate, same, candidatePath]
  rcases controlFileId? name with failure | _ | id
  · rfl
  · rfl
  · dsimp only
    rcases files.isFile ((top.descend location).child name).text with error | _ | _ <;> rfl

/-- The control files met on a walk are control files among its candidates, in their order. -/
theorem filterMap_ofReached_sublist {top : Path} (tidy : top.Tidy)
    (wellFormed : (Node.directory entries).WellFormed) :
    (((Node.directories (.directory entries)).flatMap
        (Visit.ofReached files top.text)).filterMap Visit.file?).Sublist
      ((Node.candidates entries).filterMap (ofCandidate files top)) := by
  rw [Node.candidates, List.filterMap_flatMap, List.filterMap_flatMap]
  refine List.Sublist.flatMap_right _ fun reached member => ?_
  obtain ⟨location, children⟩ := reached
  obtain ⟨-, isName⟩ := wellFormed.at? ((Node.mem_directories wellFormed).mp member)
  have same : Path.ofString (Path.joinAll top.text location) = top.descend location :=
    Path.ofString_joinAll_text tidy fun name inside => (isName name inside).piece
  rw [Visit.ofReached]
  split
  -- A directory that cannot be listed shows nothing.
  · exact List.nil_sublist _
  · rw [Visit.ofDirectory, List.filterMap_flatMap, List.filterMap_map,
      List.filterMap_eq_flatMap_toList]
    simp only [filterMap_ofEntry same]
    exact List.Sublist.refl _

/-- The names met on a walk through a well-formed tree can all be read. -/
theorem failed_notMem_flatMap_ofReached {top : Path} {failure : Failure}
    (wellFormed : (Node.directory entries).WellFormed) :
    Visit.failed failure ∉
      (Node.directories (.directory entries)).flatMap (Visit.ofReached files top.text) := by
  rw [List.mem_flatMap]
  rintro ⟨⟨location, children⟩, member, failed⟩
  obtain ⟨childrenWellFormed, -⟩ := wellFormed.at? ((Node.mem_directories wellFormed).mp member)
  rw [Visit.ofReached] at failed
  split at failed
  · simp at failed
  · obtain ⟨⟨name, node⟩, listed, failed⟩ := List.mem_flatMap.mp failed
    have inside := (List.mem_filter.mp (mem_sortByName.mp listed)).1
    obtain ⟨answer, known⟩ := (childrenWellFormed.isName inside).exists_controlFileId?_eq_ok
    rw [Visit.ofEntry] at failed
    dsimp only at failed
    rw [known] at failed
    split at failed
    -- The name has been read, so that what is met is a control file or nothing.
    · rename_i wrong
      cases wrong
    · simp at failed
    · split at failed <;> simp at failed

/-- What a search that gives a result has found: nothing where its root cannot be listed, and
otherwise some of the control files among its candidates, put in order. -/
theorem discover_cases {found : List ControlFile} (wellFormed : files.WellFormed)
    (known : (discover files root).result = .ok found) :
    found = [] ∨ ∃ (entries : List (String × Node)) (gathered : List ControlFile),
      files.list (searchRoot files root) = .ok entries ∧
      gathered.Sublist
        ((Node.candidates entries).filterMap (ofCandidate files (searchPath files root))) ∧
      found = gathered.mergeSort precedes := by
  obtain ⟨gathered, result, same⟩ := Report.bind_result_eq_ok.mp known
  obtain rfl : gathered.mergeSort precedes = found := Except.ok.inj same
  rw [searchVisits] at result
  cases listed : files.list (searchRoot files root) with
  | ok entries =>
    rw [listed] at result
    dsimp only at result
    rw [Visit.gather_congr (Visit.upToFault_visits files _ entries)] at result
    have met := gather_sublist result
    rw [searchRoot_eq] at met
    exact Or.inr ⟨entries, gathered, rfl, met.trans (filterMap_ofReached_sublist
      (tidy_searchPath wellFormed) (FileSystem.wellFormed_of_list wellFormed listed)), rfl⟩
  | error error =>
    left
    have nothing : gathered.Sublist [] := by
      have met := gather_sublist result
      rw [listed] at met
      cases error with
      | nullCharacter => exact met
      | refused reason path => exact met
    rw [List.sublist_nil.mp nothing, List.mergeSort_nil]

/-- A search fails only where the path of its root is rejected. -/
theorem discover_eq_error {failure : Failure} (wellFormed : files.WellFormed)
    (failed : (discover files root).result = .error failure) :
    failure = .access .nullCharacter ∧
      files.list (searchRoot files root) = .error .nullCharacter := by
  have gathered : (Visit.gather (searchVisits files (searchRoot files root))).result =
      .error failure := by
    rcases Report.bind_result_eq_error.mp failed with gathering | ⟨found, -, sorting⟩
    · exact gathering
    · cases sorting
  rw [searchVisits] at gathered
  cases listed : files.list (searchRoot files root) with
  | ok entries =>
    rw [listed] at gathered
    dsimp only at gathered
    rw [Visit.gather_congr (Visit.upToFault_visits files _ entries), searchRoot_eq] at gathered
    obtain ⟨found, known⟩ := exists_gather_eq_ok fun failure =>
      failed_notMem_flatMap_ofReached (FileSystem.wellFormed_of_list wellFormed listed)
    rw [known] at gathered
    cases gathered
  | error error =>
    rw [listed] at gathered
    cases error with
    | refused reason path => cases gathered
    | nullCharacter => exact ⟨(Except.error.inj gathered).symm, rfl⟩

/-- A search gives a result, unless there is a null character in the path of its root. -/
theorem exists_discover_eq_ok (wellFormed : files.WellFormed)
    (whole : ∀ path, root = some path → '\x00' ∉ path.toList) :
    ∃ found, (discover files root).result = .ok found := by
  cases searched : (discover files root).result with
  | ok found => exact ⟨found, rfl⟩
  | error failure =>
    have rejected := FileSystem.null_of_list (discover_eq_error wellFormed searched).2
    exact absurd rejected (null_notMem_searchRoot wellFormed whole)

/-- What is found is one of the candidates below the root. -/
theorem exists_candidate_of_mem_discover {found : List ControlFile} {file : ControlFile}
    (wellFormed : files.WellFormed) (known : (discover files root).result = .ok found)
    (member : file ∈ found) :
    ∃ (entries : List (String × Node)) (place : Location × String),
      files.list (searchRoot files root) = .ok entries ∧ place ∈ Node.candidates entries ∧
      ofCandidate files (searchPath files root) place = some file := by
  rcases discover_cases wellFormed known with rfl | ⟨entries, gathered, listed, fewer, rfl⟩
  · cases member
  · obtain ⟨place, candidate, made⟩ :=
      List.mem_filterMap.mp (fewer.subset (List.mem_mergeSort.mp member))
    exact ⟨entries, place, listed, candidate, made⟩

/-- What is found stands under the name of an entry that has the right form, and leads to a file. -/
theorem exists_of_mem_discover {found : List ControlFile} {file : ControlFile}
    (wellFormed : files.WellFormed) (known : (discover files root).result = .ok found)
    (member : file ∈ found) :
    ∃ location name id, (∀ above ∈ location, Node.IsName above) ∧ Node.IsName name ∧
      controlFileId? name = .ok (some id) ∧
      files.LeadsToFile (candidatePath (searchPath files root) (location, name)) ∧
      file = ofPath (candidatePath (searchPath files root) (location, name)) id := by
  obtain ⟨entries, ⟨location, name⟩, listed, candidate, made⟩ :=
    exists_candidate_of_mem_discover wellFormed known member
  obtain ⟨id, named, leads, same⟩ := ofCandidate_eq_some_iff.mp made
  obtain ⟨names, last⟩ :=
    isName_of_mem_candidates (FileSystem.wellFormed_of_list wellFormed listed) candidate
  exact ⟨location, name, id, names, last, named, leads, same⟩

/-- The name of what is found is the name under which it was listed. -/
theorem baseName_ofPath {top : Path} {id : Nat} (tidy : top.Tidy)
    (names : ∀ above ∈ location, Path.IsPiece above) (last : Path.IsPiece name) :
    (ofPath (candidatePath top (location, name)) id).baseName = name := by
  have tidyBelow := (tidy.descend names).child last
  rw [baseName, ofPath, candidatePath, Path.ofString_text tidyBelow]
  simp [Path.name, Path.child]

/-- The identifier of what is found is the number in its name. -/
theorem exists_id_of_mem_discover {found : List ControlFile} {file : ControlFile}
    (wellFormed : files.WellFormed) (known : (discover files root).result = .ok found)
    (member : file ∈ found) :
    ∃ id : Nat, file.id = id ∧ controlFileId? file.baseName = .ok (some id) := by
  obtain ⟨location, name, id, names, last, named, -, rfl⟩ :=
    exists_of_mem_discover wellFormed known member
  refine ⟨id, rfl, ?_⟩
  rw [baseName_ofPath (tidy_searchPath wellFormed) (fun above inside => (names above inside).piece)
    last.piece]
  exact named

/-- What is found is in the strict order of identifier and path: no path is found twice. -/
theorem strict_of_discover {found : List ControlFile} (wellFormed : files.WellFormed)
    (known : (discover files root).result = .ok found) :
    found.Pairwise fun a b => a.id < b.id ∨ a.id = b.id ∧ a.path < b.path := by
  have ordered := pairwise_precedes known
  have distinct : found.Pairwise fun a b => a.path ≠ b.path := by
    rcases discover_cases wellFormed known with rfl | ⟨entries, gathered, listed, fewer, rfl⟩
    · exact List.Pairwise.nil
    · have apart := (pairwise_path_ne files (tidy_searchPath wellFormed)
        (FileSystem.wellFormed_of_list wellFormed listed)).sublist fewer
      exact (List.mergeSort_perm _ precedes).symm.pairwise apart
        fun {a b} (different : a.path ≠ b.path) => different.symm
  -- Paths are distinct, so that the order cannot be met by two equal paths.
  refine (ordered.and distinct).imp fun {a b} both => ?_
  obtain ⟨before, different⟩ := both
  rcases precedes_iff.mp before with below | ⟨same, path⟩
  · exact Or.inl below
  · refine Or.inr ⟨same, String.not_le.mp fun other => ?_⟩
    exact different (String.le_antisymm path other)

/-! ### A search without faults -/

/-- The result of a search that meets no fault, before it is put in order. -/
theorem discover_eq_of_searchable (wellFormed : files.WellFormed)
    (searchable : Searchable files root entries) :
    ∃ messages, discover files root =
        ⟨messages, .ok (((Node.candidates entries).filterMap
          (ofCandidate files (searchPath files root))).mergeSort precedes)⟩ ∧
      ∀ message ∈ messages, message.severity = .debug := by
  have treeWellFormed := searchable.wellFormed wellFormed
  have tidy : (searchPath files root).Tidy := tidy_searchPath wellFormed
  -- No visit is a fault, so that the search sees the whole walk.
  have visits : Visit.upToFault (searchVisits files (searchRoot files root)) =
      Visit.upToFault (((Node.candidates entries).filterMap
        (ofCandidate files (searchPath files root))).map Visit.found) := by
    rw [searchVisits, searchable.listed]
    dsimp only
    rw [Visit.upToFault_visits, searchRoot_eq, flatMap_ofReached tidy treeWellFormed]
    · intro location children reached _
      obtain ⟨listed, known⟩ := searchable.below _ _ reached
      exact FileSystem.obstacle?_eq_none_of_list (searchRoot_eq ▸ known)
    · intro location children name node id reached inside leaf named
      exact FileSystem.exists_isFile_eq_ok
        (searchable.tested _ _ _ _ _ reached inside leaf named)
  refine ⟨((Node.candidates entries).filterMap
    (ofCandidate files (searchPath files root))).map foundMessage, ?_, fun message member => ?_⟩
  · rw [discover, Visit.gather_congr visits, gather_found, Report.bind_ok]
    simp
  · obtain ⟨file, -, rfl⟩ := List.mem_map.mp member
    rfl

/-- A control file stands below the root of a search: under a name of the right form, in a directory
that is reached through real directories, at a path that leads to a file. -/
def StandsBelow (files : FileSystem) (root : Option String) (entries : List (String × Node))
    (file : ControlFile) : Prop :=
  ∃ location children name id,
    (Node.directory entries).at? location = some (.directory children) ∧
      name ∈ children.map (·.1) ∧ controlFileId? name = .ok (some id) ∧
      files.LeadsToFile (candidatePath (searchPath files root) (location, name)) ∧
      file = ofPath (candidatePath (searchPath files root) (location, name)) id

theorem candidatePath_eq (top : Path) (location : Location) (name : String) :
    candidatePath top (location, name) = (top.descend (location ++ [name])).text := by
  rw [candidatePath, Path.descend_child]

/-- A directory below the root of a search is no file, whatever its name is. -/
theorem not_leadsToFile_of_directory {inner : List (String × Node)} {here : Location}
    (wellFormed : files.WellFormed)
    (start : files.target .find (searchRoot files root) = .ok (.present here (.directory entries)))
    (reached : (Node.directory entries).at? location = some (.directory children))
    (inside : (name, Node.directory inner) ∈ children) :
    ¬ files.LeadsToFile (candidatePath (searchPath files root) (location, name)) := by
  rintro ⟨place, content, found⟩
  have treeWellFormed : (Node.directory entries).WellFormed :=
    (wellFormed.tree.at? (FileSystem.at?_of_target start)).1
  have below : (Node.directory entries).at? (location ++ [name]) = some (.directory inner) :=
    (Node.mem_iff_at? treeWellFormed reached).mp inside
  obtain ⟨-, names⟩ := treeWellFormed.at? below
  rw [candidatePath_eq] at found
  obtain ⟨-, short, -, -⟩ := FileSystem.target_eq_ok_iff.mp found
  rw [searchRoot_eq] at start
  have directory := FileSystem.target_descend (tidy_searchPath wellFormed) start below names
    (by simp) (by simp) short
  cases directory.symm.trans found

/-- The control files among the candidates of a search are those that stand below its root. -/
theorem mem_filterMap_ofCandidate_iff {file : ControlFile} (wellFormed : files.WellFormed)
    (searchable : Searchable files root entries) :
    file ∈ (Node.candidates entries).filterMap (ofCandidate files (searchPath files root)) ↔
      StandsBelow files root entries file := by
  rw [List.mem_filterMap, StandsBelow]
  constructor
  · rintro ⟨⟨location, name⟩, member, known⟩
    obtain ⟨children, node, reached, inside, -⟩ :=
      (Node.mem_candidates (searchable.wellFormed wellFormed)).mp member
    obtain ⟨id, named, leads, same⟩ := ofCandidate_eq_some_iff.mp known
    exact ⟨location, children, name, id, reached, List.mem_map.mpr ⟨_, inside, rfl⟩, named, leads,
      same⟩
  · rintro ⟨location, children, name, id, reached, listed, named, leads, same⟩
    obtain ⟨⟨first, node⟩, inside, rfl⟩ := List.mem_map.mp listed
    refine ⟨(location, first), (Node.mem_candidates (searchable.wellFormed wellFormed)).mpr ?_,
      ofCandidate_eq_some_iff.mpr ⟨id, named, leads, same⟩⟩
    refine ⟨children, node, reached, inside, ?_⟩
    -- A real directory of that name is walked into; its path leads to no file.
    cases node with
    | file content => rfl
    | link text => rfl
    | directory inner =>
      obtain ⟨-, here, start⟩ := FileSystem.list_eq_ok_iff.mp searchable.listed
      exact absurd leads (not_leadsToFile_of_directory wellFormed start reached inside)

/-- A search without faults finds exactly the control files that stand below its root, each once, in
the order of identifier and path, and warns of nothing. The identifier of each is the number in its
name, and its micro-controller and its columns follow from that. -/
theorem discover_of_searchable (wellFormed : files.WellFormed)
    (searchable : Searchable files root entries) :
    ∃ messages found, discover files root = ⟨messages, .ok found⟩ ∧
      (∀ message ∈ messages, message.severity = .debug) ∧
      (found.Pairwise fun a b => a.id < b.id ∨ a.id = b.id ∧ a.path < b.path) ∧
      (∀ file, file ∈ found ↔ StandsBelow files root entries file) ∧
      ∀ file ∈ found, ∃ id : Nat, file.id = id ∧
        controlFileId? file.baseName = .ok (some id) ∧ file.microController = 4 * id ∧
        file.firstColumn = 4 * id ∧ file.lastColumn = 4 * id + 3 := by
  obtain ⟨messages, result, severities⟩ := discover_eq_of_searchable wellFormed searchable
  have known : (discover files root).result = .ok _ := congrArg Report.result result
  have all : ∀ file, file ∈ ((Node.candidates entries).filterMap
      (ofCandidate files (searchPath files root))).mergeSort precedes ↔
        StandsBelow files root entries file := by
    intro file
    rw [List.mem_mergeSort]
    exact mem_filterMap_ofCandidate_iff wellFormed searchable
  refine ⟨messages, _, result, severities, strict_of_discover wellFormed known, all,
    fun file member => ?_⟩
  obtain ⟨id, same, named⟩ := exists_id_of_mem_discover wellFormed known member
  refine ⟨id, same, named, ?_, ?_, ?_⟩
  · rw [microController, same]
  · rw [firstColumn, columnCount, same]
  · rw [lastColumn, firstColumn, columnCount, same]
    omega

/-- A listing, and a directory with two links: to that listing by a name with a leading zero, and to
nothing. -/
def linkedEntries : List (String × Node) :=
  [("aie_runtime_control1.asm", .file []),
    ("sub", .directory [("aie_runtime_control01.asm", .link "../aie_runtime_control1.asm"),
      ("aie_runtime_control2.asm", .link "gone.asm")])]

/-- A file system with nothing else. -/
def linkedFiles : FileSystem := ⟨.directory linkedEntries, [], []⟩

private theorem directories_linkedEntries :
    Node.directories (.directory linkedEntries) = [([], linkedEntries),
      (["sub"], [("aie_runtime_control01.asm", .link "../aie_runtime_control1.asm"),
        ("aie_runtime_control2.asm", .link "gone.asm")])] := by
  simp [linkedEntries, Node.directories, subDirectories, sortByName]

theorem discover_linkedFiles :
    linkedFiles.WellFormed ∧ Searchable linkedFiles none linkedEntries ∧
      ∃ messages found, discover linkedFiles none = ⟨messages, .ok found⟩ ∧
        ofPath "/aie_runtime_control1.asm" 1 ∈ found ∧
        ofPath "/sub/aie_runtime_control01.asm" 1 ∈ found := by
  have wellFormed : linkedFiles.WellFormed := by decide
  have walk {location : Location} {children : List (String × Node)}
      (reached : (Node.directory linkedEntries).at? location = some (.directory children)) :
      (location = [] ∧ children = linkedEntries) ∨ (location = ["sub"] ∧ children =
        [("aie_runtime_control01.asm", .link "../aie_runtime_control1.asm"),
          ("aie_runtime_control2.asm", .link "gone.asm")]) := by
    have member := (Node.mem_directories wellFormed.tree).mpr reached
    simpa [directories_linkedEntries] using member
  have searchable : Searchable linkedFiles none linkedEntries := by
    refine ⟨rfl, fun location children reached => ?_, ?_⟩
    · rcases walk reached with ⟨rfl, rfl⟩ | ⟨rfl, rfl⟩
      · exact ⟨_, rfl⟩
      · exact ⟨_, rfl⟩
    · intro location children name node id reached inside leaf named reason path failed
      rcases walk reached with ⟨rfl, rfl⟩ | ⟨rfl, rfl⟩
      · simp only [linkedEntries, List.mem_cons, Prod.mk.injEq, List.not_mem_nil, or_false]
          at inside
        rcases inside with ⟨rfl, rfl⟩ | ⟨rfl, rfl⟩
        · cases failed
        · cases leaf
      · simp only [List.mem_cons, Prod.mk.injEq, List.not_mem_nil, or_false] at inside
        rcases inside with ⟨rfl, rfl⟩ | ⟨rfl, rfl⟩
        · cases failed
        · cases failed
  obtain ⟨messages, found, result, -, -, all, -⟩ := discover_of_searchable wellFormed searchable
  refine ⟨wellFormed, searchable, messages, found, result, ?_, ?_⟩
  · exact (all _).mpr ⟨[], _, "aie_runtime_control1.asm", 1, rfl, by decide, rfl,
      ⟨["aie_runtime_control1.asm"], [], rfl⟩, rfl⟩
  · exact (all _).mpr ⟨["sub"], _, "aie_runtime_control01.asm", 1, rfl, by decide, rfl,
      ⟨["aie_runtime_control1.asm"], [], rfl⟩, rfl⟩

end ControlFile

end CounterTrace
