import CounterTrace.Proofs.SearchCongruence

/-!
# Searches that come to a directory that cannot be listed

A search takes the directories of a tree in the order of their places and stops at the first that it
cannot list, with one warning. What it has found up to there it keeps: the control files in the
directories before, and none from a later one. Since the order of the walk is that of the places,
it is the same directory at which the search stops however the directories are listed, and the whole
report is the same.

## Main definitions

* `Node.Reordered`, `FileSystem.Reordered` — one tree, listed in two orders
* `ControlFile.Listable` — a directory below the root of a search that can be listed
* `ControlFile.ListingFaultsOnly` — a search that meets no other fault than such directories
* `ControlFile.StandsIn` — a control file in a directory below the root

## Main results

* `FileSystem.Reordered.equalBut` — reordered trees hold the same
* `FileSystem.list_joinAll` — when a directory that the walk reaches can be listed
* `ControlFile.discover_of_blocked` — a search that comes to a directory that cannot be listed
* `ControlFile.discover_reordered` — what a search finds and reports, in whatever order directories
  are listed
-/

namespace CounterTrace

variable {files others : FileSystem} {root : Option String}
  {entries children otherEntries : List (String × Node)} {name path : String} {node : Node}
  {location place : Location}

/-! ### One tree in two orders -/

/-- Two trees that hold the same, each directory listed in any order. -/
inductive Node.Reordered : Node → Node → Prop
  | file (content : List UInt8) : Reordered (.file content) (.file content)
  | link (target : String) : Reordered (.link target) (.link target)
  | directory {entries others : List (String × Node)}
    (names : (others.map (·.1)).Perm (entries.map (·.1)))
    (below : ∀ name node other, (name, node) ∈ entries → (name, other) ∈ others →
      Reordered node other) :
    Reordered (.directory entries) (.directory others)

/-- Two file systems with one tree, each directory listed in any order. -/
structure FileSystem.Reordered (files others : FileSystem) : Prop where
  root : files.root.Reordered others.root
  workingDirectory : others.workingDirectory = files.workingDirectory
  barred : others.barred = files.barred

theorem Node.lookup_eq_none_iff : entries.lookup name = none ↔ name ∉ entries.map (·.1) := by
  rw [List.lookup_eq_none_iff]
  simp only [List.mem_map, not_exists, not_and, bne_iff_ne, ne_eq]
  exact forall₂_congr fun entry _ => ne_comm

/-- Trees that hold the same hold the same at every place. -/
theorem Node.Reordered.at?_bare {root other : Node} (reordered : root.Reordered other)
    (location : Location) :
    (other.at? location).map Node.bare = (root.at? location).map Node.bare := by
  induction location generalizing root other with
  | nil => cases reordered <;> simp [Node.bare]
  | cons name location ih =>
    cases reordered with
    | file content => rfl
    | link target => rfl
    | @directory entries others names below =>
      rw [Node.at?_cons, Node.at?_cons]
      cases found : entries.lookup name with
      | none =>
        have missing : others.lookup name = none := by
          rw [Node.lookup_eq_none_iff, names.mem_iff, ← Node.lookup_eq_none_iff]
          exact found
        rw [missing]
      | some node =>
        cases otherFound : others.lookup name with
        | none =>
          rw [Node.lookup_eq_none_iff, names.mem_iff] at otherFound
          exact absurd (List.mem_map.mpr ⟨_, Node.mem_of_lookup found, rfl⟩) otherFound
        | some other =>
          exact ih (below name node other (Node.mem_of_lookup found)
            (Node.mem_of_lookup otherFound))

theorem FileSystem.Reordered.equalBut (reordered : files.Reordered others) :
    FileSystem.EqualBut (fun _ => False) files others where
  trees :=
    { elsewhere := fun location _ => reordered.root.at?_bare location
      before := fun _ _ wrong => wrong.elim
      after := fun _ wrong => wrong.elim }
  workingDirectory := reordered.workingDirectory
  barred := reordered.barred

/-! ### Listing a directory on the walk -/

/-- A directory that the walk reaches can be listed by the text of its path, unless there is an
obstacle before it. -/
theorem FileSystem.list_joinAll {top : Path} (tidy : top.Tidy)
    (start : files.target .find top.text = .ok (.present place (.directory entries)))
    (reached : (Node.directory entries).at? location = some (.directory children))
    (names : ∀ name ∈ location, Node.IsName name) :
    files.list (Path.joinAll top.text location) =
      match files.obstacle? (Path.joinAll top.text location) with
      | some error => .error error
      | none => .ok children := by
  rw [list, obstacle?]
  split
  · rfl
  · by_cases long : maxPathBytes < (Path.joinAll top.text location).utf8ByteSize
    · have whole : '\x00' ∉ (Path.joinAll top.text location).toList :=
        Path.null_notMem_joinAll (target_eq_ok_iff.mp start).1 fun name member =>
          (names name member).whole
      simp [target, whole, long]
    · rw [target_joinAll tidy start reached names (by simp) (Nat.not_lt.mp long), if_neg long]

namespace Visit

/-- The visits at a place of a walk that lists every directory: those in it, or the refusal. -/
def ofPlace (files : FileSystem) (top : String) (reached : Location × List (String × Node)) :
    List Visit :=
  match files.list (Path.joinAll top reached.1) with
  | .ok _ => ofDirectory files (Path.joinAll top reached.1) reached.2
  | .error error => [.refused error]

/-- Up to the first fault, a search visits one directory after another in the order of the walk. -/
theorem upToFault_searchVisits {top : Path} (tidy : top.Tidy)
    (wellFormed : (Node.directory entries).WellFormed)
    (start : files.target .find top.text = .ok (.present place (.directory entries))) :
    upToFault (ControlFile.searchVisits files top.text) =
      upToFault ((Node.directories (.directory entries)).flatMap (ofPlace files top.text)) := by
  have first := FileSystem.list_joinAll tidy start Node.at?_nil (by simp)
  rw [Path.joinAll, List.foldl_nil] at first
  rw [ControlFile.searchVisits, first]
  cases obstacle : files.obstacle? top.text with
  | some error =>
    have refused : ofPlace files top.text ([], entries) = [.refused error] := by
      rw [ofPlace, Path.joinAll, List.foldl_nil, first, obstacle]
    have known : error ≠ .nullCharacter := by
      rw [FileSystem.obstacle?] at obstacle
      split at obstacle
      · rintro rfl
        cases obstacle
      · split at obstacle
        · rintro rfl
          cases obstacle
        · cases obstacle
    rw [Node.directories_directory, List.flatMap_cons, refused]
    cases error with
    | nullCharacter => exact absurd rfl known
    | refused reason path => rfl
  | none =>
    dsimp only
    rw [upToFault_visits files]
    refine congrArg upToFault (List.flatMap_congr fun reached member => ?_)
    obtain ⟨location, children⟩ := reached
    have there := (Node.mem_directories wellFormed).mp member
    have listed := FileSystem.list_joinAll tidy start there (wellFormed.at? there).2
    rw [ofReached, ofPlace, listed]
    cases location with
    | nil => simp [Path.joinAll, obstacle]
    | cons name rest =>
      cases files.obstacle? (Path.joinAll top.text (name :: rest)) <;> rfl

end Visit

/-! ### What is found in a directory -/

namespace ControlFile

/-- The control files in a directory on the walk, in the order of their names. -/
def foundIn (files : FileSystem) (top : Path) (reached : Location × List (String × Node)) :
    List ControlFile :=
  (Node.controlNames reached.2).filterMap fun name => ofCandidate files top (reached.1, name)

/-- In a directory whose names can be tested the visits are its control files. -/
theorem ofDirectory_of_tested {top : Path} (tidy : top.Tidy)
    (wellFormed : (Node.directory children).WellFormed)
    (names : ∀ above ∈ location, Node.IsName above)
    (tested : ∀ name node id, (name, node) ∈ children → node.isDirectory = false →
      controlFileId? name = .ok (some id) →
      ∃ answer, files.isFile (candidatePath top (location, name)) = .ok answer) :
    Visit.ofDirectory files (Path.joinAll top.text location) children =
      (foundIn files top (location, children)).map Visit.found := by
  have shown : Path.ofString (Path.joinAll top.text location) = top.descend location :=
    Path.ofString_joinAll_text tidy fun name inside => (names name inside).piece
  rw [Visit.ofDirectory_eq wellFormed, foundIn, List.map_filterMap,
    List.filterMap_eq_flatMap_toList]
  refine List.flatMap_congr fun name member => ?_
  obtain ⟨-, node, inside, leaf⟩ := Node.mem_controlNames.mp member
  exact ofEntry_of_tested shown (wellFormed.isName inside) fun id named =>
    tested name node id inside leaf named

/-! ### Where a search stops -/

/-- A directory below the root of a search can be listed. -/
def Listable (files : FileSystem) (root : Option String) (location : Location) : Prop :=
  ∃ listed, files.list (Path.joinAll (searchRoot files root) location) = .ok listed

/-- A search in a directory, or through a link to one, that meets no other fault than directories
that cannot be listed: in each directory that it comes to, with all directories up to it listed, the
names of control files can be tested. -/
structure ListingFaultsOnly (files : FileSystem) (root : Option String)
    (entries : List (String × Node)) : Prop where
  start : ∃ place,
    files.target .find (searchRoot files root) = .ok (.present place (.directory entries))
  tested : ∀ location children name node id,
    (Node.directory entries).at? location = some (.directory children) →
      (∀ earlier inside, (Node.directory entries).at? earlier = some (.directory inside) →
        earlier ≤ location → Listable files root earlier) →
      (name, node) ∈ children → node.isDirectory = false → controlFileId? name = .ok (some id) →
      ∃ answer, files.isFile (candidatePath (searchPath files root) (location, name)) = .ok answer

/-- A control file stands in a directory below the root of a search: under a name of the right form,
at a path that leads to a file. -/
def StandsIn (files : FileSystem) (root : Option String) (location : Location)
    (children : List (String × Node)) (file : ControlFile) : Prop :=
  ∃ name id, name ∈ children.map (·.1) ∧ controlFileId? name = .ok (some id) ∧
    files.LeadsToFile (candidatePath (searchPath files root) (location, name)) ∧
    file = ofPath (candidatePath (searchPath files root) (location, name)) id

theorem ListingFaultsOnly.wellFormed (wellFormed : files.WellFormed)
    (faults : ListingFaultsOnly files root entries) : (Node.directory entries).WellFormed := by
  obtain ⟨place, start⟩ := faults.start
  exact (wellFormed.tree.at? (FileSystem.at?_of_target start)).1

/-- The control files found in a directory are those that stand in it. -/
theorem mem_foundIn_iff {file : ControlFile} (wellFormed : files.WellFormed)
    (faults : ListingFaultsOnly files root entries)
    (reached : (Node.directory entries).at? location = some (.directory children)) :
    file ∈ foundIn files (searchPath files root) (location, children) ↔
      StandsIn files root location children file := by
  obtain ⟨place, start⟩ := faults.start
  rw [foundIn, List.mem_filterMap, StandsIn]
  constructor
  · rintro ⟨name, member, known⟩
    obtain ⟨-, node, inside, -⟩ := Node.mem_controlNames.mp member
    obtain ⟨id, named, leads, same⟩ := ofCandidate_eq_some_iff.mp known
    exact ⟨name, id, List.mem_map.mpr ⟨_, inside, rfl⟩, named, leads, same⟩
  · rintro ⟨name, id, listed, named, leads, same⟩
    obtain ⟨⟨first, node⟩, inside, rfl⟩ := List.mem_map.mp listed
    refine ⟨first, Node.mem_controlNames.mpr ⟨⟨id, named⟩, node, inside, ?_⟩,
      ofCandidate_eq_some_iff.mpr ⟨id, named, leads, same⟩⟩
    -- A real directory of that name is walked into; its path leads to no file.
    cases node with
    | file content => rfl
    | link text => rfl
    | directory inner =>
      exact absurd leads (not_leadsToFile_of_directory wellFormed start reached inside)

/-- In a directory that a search comes to the visits are the control files in it. -/
theorem ListingFaultsOnly.ofPlace_eq (wellFormed : files.WellFormed)
    (faults : ListingFaultsOnly files root entries)
    (reached : (Node.directory entries).at? location = some (.directory children))
    (listable : ∀ earlier inside,
      (Node.directory entries).at? earlier = some (.directory inside) → earlier ≤ location →
        Listable files root earlier) :
    Visit.ofPlace files (searchRoot files root) (location, children) =
      (foundIn files (searchPath files root) (location, children)).map Visit.found := by
  obtain ⟨listed, known⟩ := listable location children reached le_rfl
  obtain ⟨childrenWellFormed, names⟩ := (faults.wellFormed wellFormed).at? reached
  rw [Visit.ofPlace, known]
  dsimp only
  rw [searchRoot_eq]
  exact ofDirectory_of_tested (tidy_searchPath wellFormed) childrenWellFormed names
    fun name node id => faults.tested location children name node id reached listable

/-- A search takes the visits of the directories in the order of the walk. -/
theorem discover_eq_gather (wellFormed : files.WellFormed)
    (faults : ListingFaultsOnly files root entries) :
    discover files root =
      Visit.gather ((Node.directories (.directory entries)).flatMap
          (Visit.ofPlace files (searchRoot files root))) >>= fun found =>
        pure (found.mergeSort precedes) := by
  obtain ⟨place, start⟩ := faults.start
  have visits := Visit.upToFault_searchVisits (tidy_searchPath wellFormed)
    (faults.wellFormed wellFormed) (searchRoot_eq ▸ start)
  rw [discover, searchRoot_eq, Visit.gather_congr visits]

variable {front rest : List (Location × List (String × Node))}

/-- As long as directories can be listed, the visits are the control files in them. -/
theorem flatMap_ofPlace (wellFormed : files.WellFormed)
    (faults : ListingFaultsOnly files root entries)
    (walk : Node.directories (.directory entries) = front ++ rest)
    (listable : ∀ reached ∈ front, Listable files root reached.1) :
    front.flatMap (Visit.ofPlace files (searchRoot files root)) =
      (front.flatMap (foundIn files (searchPath files root))).map Visit.found := by
  have treeWellFormed := faults.wellFormed wellFormed
  have ordered := Node.pairwise_directories treeWellFormed
  rw [walk] at ordered
  obtain ⟨-, -, before⟩ := List.pairwise_append.mp ordered
  rw [List.map_flatMap]
  refine List.flatMap_congr fun reached member => ?_
  obtain ⟨location, children⟩ := reached
  have there : (Node.directory entries).at? location = some (.directory children) :=
    (Node.mem_directories treeWellFormed).mp (walk ▸ List.mem_append_left _ member)
  refine faults.ofPlace_eq wellFormed there fun earlier inside known upTo => ?_
  -- What is not behind this directory on the walk is in front.
  have onWalk := (Node.mem_directories treeWellFormed).mpr known
  rw [walk] at onWalk
  rcases List.mem_append.mp onWalk with first | later
  · exact listable (earlier, inside) first
  · have behind : location < earlier := before _ member _ later
    exact absurd upTo behind.not_ge

/-- A search that can list every directory. -/
theorem discover_of_listable (wellFormed : files.WellFormed)
    (faults : ListingFaultsOnly files root entries)
    (listable : ∀ reached ∈ Node.directories (.directory entries),
      Listable files root reached.1) :
    discover files root =
      ⟨((Node.directories (.directory entries)).flatMap
          (foundIn files (searchPath files root))).map foundMessage,
        .ok (((Node.directories (.directory entries)).flatMap
          (foundIn files (searchPath files root))).mergeSort precedes)⟩ := by
  rw [discover_eq_gather wellFormed faults,
    flatMap_ofPlace wellFormed faults (List.append_nil _).symm listable, gather_found]
  simp

/-- A search that comes to a directory that it cannot list keeps what it has found before. -/
theorem discover_of_blocked {blocked : Location} {inside : List (String × Node)}
    {error : AccessError} (wellFormed : files.WellFormed)
    (faults : ListingFaultsOnly files root entries)
    (walk : Node.directories (.directory entries) = front ++ (blocked, inside) :: rest)
    (listable : ∀ reached ∈ front, Listable files root reached.1)
    (refused : files.list (Path.joinAll (searchRoot files root) blocked) = .error error) :
    discover files root =
      ⟨(front.flatMap (foundIn files (searchPath files root))).map foundMessage ++
          [blockedMessage error],
        .ok ((front.flatMap (foundIn files (searchPath files root))).mergeSort precedes)⟩ := by
  have stop : Visit.ofPlace files (searchRoot files root) (blocked, inside) = [.refused error] := by
    rw [Visit.ofPlace, refused]
  rw [discover_eq_gather wellFormed faults, walk, List.flatMap_append,
    flatMap_ofPlace wellFormed faults walk listable, List.flatMap_cons, stop, List.singleton_append,
    gather_found_refused]
  simp

/-- On the walk, the directories in front of one are those with a place before its own. -/
theorem mem_front_iff {blocked : Location} {inside : List (String × Node)}
    (wellFormed : (Node.directory entries).WellFormed)
    (walk : Node.directories (.directory entries) = front ++ (blocked, inside) :: rest) :
    (location, children) ∈ front ↔
      (Node.directory entries).at? location = some (.directory children) ∧ location < blocked := by
  have ordered := Node.pairwise_directories wellFormed
  rw [walk] at ordered
  obtain ⟨-, behind, before⟩ := List.pairwise_append.mp ordered
  rw [← Node.mem_directories wellFormed, walk, List.mem_append]
  constructor
  · exact fun member => ⟨Or.inl member, before _ member _ List.mem_cons_self⟩
  · rintro ⟨first | later, earlier⟩
    · exact first
    · rcases List.mem_cons.mp later with same | beyond
      · obtain ⟨rfl, rfl⟩ := Prod.mk.inj same
        exact absurd earlier (lt_irrefl _)
      · have after : blocked < location := (List.pairwise_cons.mp behind).1 _ beyond
        exact absurd earlier after.asymm

/-- What a search finds in some of the directories on its walk. -/
theorem mem_flatMap_foundIn_iff {file : ControlFile} (part : Location → Prop)
    (wellFormed : files.WellFormed) (faults : ListingFaultsOnly files root entries)
    (same : ∀ location children, (location, children) ∈ front ↔
      (Node.directory entries).at? location = some (.directory children) ∧ part location) :
    file ∈ front.flatMap (foundIn files (searchPath files root)) ↔
      ∃ location children, (Node.directory entries).at? location = some (.directory children) ∧
        part location ∧ StandsIn files root location children file := by
  simp only [List.mem_flatMap, Prod.exists, same]
  refine exists₂_congr fun location children => ?_
  rw [and_assoc]
  refine and_congr_right fun reached => and_congr_right fun _ => ?_
  exact mem_foundIn_iff wellFormed faults reached

/-- A search whose only faults are directories that cannot be listed gives one report in whatever
order directories are listed. Each control file that it finds has one message, all before the
warning if there is one. If every directory can be listed there is none, and what is found are the
control files in all directories below the root. Otherwise there is one, for the first directory in
the order of the walk that cannot be listed, and what is found are the control files in the
directories before it: each of them, and none from a later directory. -/
theorem discover_reordered (wellFormed : files.WellFormed) (otherWellFormed : others.WellFormed)
    (reordered : files.Reordered others) (faults : ListingFaultsOnly files root entries) :
    discover others root = discover files root ∧
      ∃ (gathered found : List ControlFile) (warnings : List Message),
        discover files root = ⟨gathered.map foundMessage ++ warnings, .ok found⟩ ∧
        gathered.Perm found ∧
        (found.Pairwise fun a b => a.id < b.id ∨ a.id = b.id ∧ a.path < b.path) ∧
        ((warnings = [] ∧
            (∀ location children,
              (Node.directory entries).at? location = some (.directory children) →
                Listable files root location) ∧
            ∀ file, file ∈ found ↔ ∃ location children,
              (Node.directory entries).at? location = some (.directory children) ∧
                StandsIn files root location children file) ∨
          ∃ blocked inside error,
            (Node.directory entries).at? blocked = some (.directory inside) ∧
            files.list (Path.joinAll (searchRoot files root) blocked) = .error error ∧
            (∀ location children,
              (Node.directory entries).at? location = some (.directory children) →
                location < blocked → Listable files root location) ∧
            warnings = [blockedMessage error] ∧
            ∀ file, file ∈ found ↔ ∃ location children,
              (Node.directory entries).at? location = some (.directory children) ∧
                location < blocked ∧ StandsIn files root location children file) := by
  have treeWellFormed := faults.wellFormed wellFormed
  obtain ⟨place, start⟩ := faults.start
  refine ⟨discover_congr wellFormed otherWellFormed reordered.equalBut start
    fun _ _ _ _ _ _ _ _ _ => ⟨not_false, fun _ _ wrong => wrong.elim⟩, ?_⟩
  classical
  -- The first directory on the walk that cannot be listed, if there is one.
  cases first : (Node.directories (.directory entries)).find? fun reached =>
      decide (¬ Listable files root reached.1) with
  | none =>
    have listable : ∀ reached ∈ Node.directories (.directory entries),
        Listable files root reached.1 := by
      simpa using List.find?_eq_none.mp first
    have report := discover_of_listable wellFormed faults listable
    refine ⟨_, _, [], report.trans (by rw [List.append_nil]), (List.mergeSort_perm _ _).symm,
      strict_of_discover wellFormed (congrArg Report.result report), Or.inl ⟨rfl, ?_, ?_⟩⟩
    · exact fun location children reached =>
        listable (location, children) ((Node.mem_directories treeWellFormed).mpr reached)
    · intro file
      have everywhere (location : Location) (children : List (String × Node)) :
          (location, children) ∈ Node.directories (.directory entries) ↔
            (Node.directory entries).at? location = some (.directory children) ∧ True := by
        rw [Node.mem_directories treeWellFormed, and_true]
      rw [List.mem_mergeSort,
        mem_flatMap_foundIn_iff (fun _ => True) wellFormed faults everywhere]
      simp only [true_and]
  | some stop =>
    obtain ⟨blocked, inside⟩ := stop
    obtain ⟨unlistable, front, rest, walk, listable⟩ := List.find?_eq_some_iff_append.mp first
    have before : ∀ reached ∈ front, Listable files root reached.1 := by
      simpa using listable
    obtain ⟨error, refused⟩ : ∃ error,
        files.list (Path.joinAll (searchRoot files root) blocked) = .error error := by
      cases known : files.list (Path.joinAll (searchRoot files root) blocked) with
      | error error => exact ⟨error, rfl⟩
      | ok listed => exact absurd ⟨listed, known⟩ (of_decide_eq_true unlistable)
    have report := discover_of_blocked wellFormed faults walk before refused
    have inFront (location : Location) (children : List (String × Node)) :
        (location, children) ∈ front ↔
          (Node.directory entries).at? location = some (.directory children) ∧
            location < blocked :=
      mem_front_iff treeWellFormed walk
    refine ⟨_, _, _, report, (List.mergeSort_perm _ _).symm,
      strict_of_discover wellFormed (congrArg Report.result report),
      Or.inr ⟨blocked, inside, error, ?_, refused, ?_, rfl, ?_⟩⟩
    · exact (Node.mem_directories treeWellFormed).mp (by simp [walk])
    · exact fun location children reached earlier =>
        before (location, children) ((inFront location children).mpr ⟨reached, earlier⟩)
    · intro file
      rw [List.mem_mergeSort, mem_flatMap_foundIn_iff (· < blocked) wellFormed faults inFront]

/-- Two directories with a control file each, and one beside them. -/
def shelfEntries : List (String × Node) :=
  [("old", .directory [("aie_runtime_control0.asm", .file [])]),
    ("aie_runtime_control1.asm", .file []),
    ("sub", .directory [("aie_runtime_control2.asm", .file [])])]

/-- A file system with these entries in which one of the directories cannot be listed. -/
def shelfFiles : FileSystem := ⟨.directory shelfEntries, [], [["sub"]]⟩

/-- The same, listed backwards. -/
def backwardFiles : FileSystem := ⟨.directory shelfEntries.reverse, [], [["sub"]]⟩

private theorem directories_shelfEntries :
    Node.directories (.directory shelfEntries) = [([], shelfEntries),
      (["old"], [("aie_runtime_control0.asm", .file [])]),
      (["sub"], [("aie_runtime_control2.asm", .file [])])] := by
  have sorted : sortByName (subDirectories shelfEntries) = subDirectories shelfEntries :=
    sortByName_of_pairwise (by decide)
  rw [Node.directories, sorted]
  simp [shelfEntries, Node.directories, subDirectories, sortByName]

/-- A directory with one file, listed in the only order that there is. -/
private theorem reordered_single (name : String) (content : List UInt8) :
    Node.Reordered (.directory [(name, .file content)]) (.directory [(name, .file content)]) := by
  refine .directory (.refl _) fun first node other inside otherInside => ?_
  obtain ⟨rfl, rfl⟩ := Prod.mk.inj (List.mem_singleton.mp inside)
  obtain ⟨-, rfl⟩ := Prod.mk.inj (List.mem_singleton.mp otherInside)
  exact .file content

theorem reordered_backwardFiles : shelfFiles.Reordered backwardFiles where
  root := by
    refine .directory (by decide) fun name node other inside otherInside => ?_
    simp only [shelfEntries, List.reverse_cons, List.reverse_nil, List.nil_append,
      List.cons_append, List.mem_cons, Prod.mk.injEq, List.not_mem_nil, or_false]
      at inside otherInside
    rcases inside with ⟨rfl, rfl⟩ | ⟨rfl, rfl⟩ | ⟨rfl, rfl⟩ <;>
      rcases otherInside with ⟨same, rfl⟩ | ⟨same, rfl⟩ | ⟨same, rfl⟩
    all_goals first
      | exact reordered_single _ _
      | exact .file _
      | exact absurd same (by decide)
  workingDirectory := rfl
  barred := rfl

theorem listingFaultsOnly_shelfFiles : ListingFaultsOnly shelfFiles none shelfEntries where
  start := ⟨[], rfl⟩
  tested := by
    intro location children name node id reached _ inside leaf _
    have wellFormed : (Node.directory shelfEntries).WellFormed := by decide
    have member := (Node.mem_directories wellFormed).mpr reached
    simp only [directories_shelfEntries, List.mem_cons, Prod.mk.injEq, List.not_mem_nil, or_false]
      at member
    rcases member with ⟨rfl, rfl⟩ | ⟨rfl, rfl⟩ | ⟨rfl, rfl⟩
    · simp only [shelfEntries, List.mem_cons, Prod.mk.injEq, List.not_mem_nil, or_false] at inside
      rcases inside with ⟨rfl, rfl⟩ | ⟨rfl, rfl⟩ | ⟨rfl, rfl⟩
      · cases leaf
      · exact ⟨true, rfl⟩
      · cases leaf
    · obtain ⟨rfl, rfl⟩ := Prod.mk.inj (List.mem_singleton.mp inside)
      exact ⟨true, rfl⟩
    · obtain ⟨rfl, rfl⟩ := Prod.mk.inj (List.mem_singleton.mp inside)
      exact ⟨true, rfl⟩

theorem discover_shelfFiles :
    shelfFiles.WellFormed ∧ backwardFiles.WellFormed ∧ shelfFiles.Reordered backwardFiles ∧
      ListingFaultsOnly shelfFiles none shelfEntries ∧
      discover backwardFiles none = discover shelfFiles none ∧
      ∃ (gathered found : List ControlFile) (error : AccessError),
        discover shelfFiles none =
          ⟨gathered.map foundMessage ++ [blockedMessage error], .ok found⟩ ∧
        ofPath "/aie_runtime_control1.asm" 1 ∈ found := by
  have wellFormed : shelfFiles.WellFormed := by decide
  have otherWellFormed : backwardFiles.WellFormed := by decide
  obtain ⟨same, gathered, found, warnings, report, -, -, ⟨-, listable, -⟩ |
    ⟨blocked, inside, error, -, refused, -, rfl, all⟩⟩ := discover_reordered wellFormed
      otherWellFormed reordered_backwardFiles listingFaultsOnly_shelfFiles
  · -- One of the directories cannot be listed.
    obtain ⟨listed, known⟩ := listable ["sub"] _ rfl
    cases known
  · refine ⟨wellFormed, otherWellFormed, reordered_backwardFiles, listingFaultsOnly_shelfFiles,
      same, gathered, found, error, report, (all _).mpr ⟨[], shelfEntries, rfl, ?_, ?_⟩⟩
    · cases blocked with
      | nil => cases refused
      | cons name rest => exact List.nil_lt_cons _ _
    · exact ⟨"aie_runtime_control1.asm", 1, by decide, rfl,
        ⟨["aie_runtime_control1.asm"], [], rfl⟩, rfl⟩

end ControlFile

end CounterTrace
