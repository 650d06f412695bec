import CounterTrace.Proofs.Messages
import CounterTrace.Proofs.Repetition

/-!
# Faults of one control file

What is wrong with one file stays with the paths that lead to it. A search asks of a file only
whether it is there, so that its bytes, and whether they can be read, are not noticed before the
markers are read; and these are read for each control file by itself. Of two file systems that
differ in one file only the same control files are loaded, and those that do not lead to this file
have the same markers. Several paths may lead to it, through links: all of them may differ.

A place is barred by the text of a path, and not by what the path leads to. So two file systems that
differ in who may read a file are compared by the paths that a search takes: those by which it lists
directories, and those by which control files are opened. Of the latter the paths that lead to the
file may be barred in one and not in the other. Whatever links there are, any file can differ so.

A control file that cannot be opened has no markers, and neither has one with an index that is too
long, even if it stands behind markers that could be read. Each of them is reported with one
warning, and no other control file is.

## Main definitions

* `ControlFile.DirectoryBelow` — the paths by which a search lists directories
* `FileSystem.DifferIn` — two file systems that differ in one file, and in who may read it
* `RawMarker.HasOverlongIndex` — bytes with an index that is too long
* `ControlFile.Accounts` — the markers of a control file and the message about it
* `ControlFile.Corresponds` — one control file as it is loaded from two such file systems

## Main results

* `FileSystem.DifferIn.isFile_eq`, `FileSystem.DifferIn.readPermitted_eq` — what does not differ
* `FileSystem.lexical_joinAll`, `FileSystem.lexical_descend` — the places of the paths of a search
* `FileSystem.exists_differIn` — in any file system any file can differ
* `ControlFile.discover_differIn` — a search does not notice the difference
* `ControlFile.load_report` — what is told of each control file
* `ControlFile.load_of_differIn` — loading from two file systems that differ in one file
-/

namespace CounterTrace

variable {files others : FileSystem} {root : Option String} {path : String} {file place : Location}
  {entries children : List (String × Node)} {node : Node} {found loaded : List ControlFile}
  {entry : ControlFile} {message : Message}

namespace FileSystem

/-! ### File systems that differ in one file -/

/-- A path leads to a place, if every link on the way is followed. -/
def LeadsTo (files : FileSystem) (path : String) (place : Location) : Prop :=
  ∃ node, files.target .find path = .ok (.present place node)

end FileSystem

/-- The paths by which a search lists directories: those of the directories that are reached from
its root through real directories. -/
inductive ControlFile.DirectoryBelow (files : FileSystem) (root : Option String) : String → Prop
  | intro {place location : Location} {entries children : List (String × Node)}
    (start : files.target .find (searchRoot files root) = .ok (.present place (.directory entries)))
    (reached : files.root.at? (place ++ location) = some (.directory children)) :
    DirectoryBelow files root (Path.joinAll (searchRoot files root) location)

namespace FileSystem

/-- Two file systems that differ in one file only: in its bytes, and in whether a search below a
root can open it. Of the paths that such a search takes to list a directory or to open a control
file only those that lead to this file may be barred in one of them and not in the other. -/
structure DifferIn (root : Option String) (file : Location) (files others : FileSystem) : Prop where
  present : ∃ content, files.root.at? file = some (.file content)
  replaced : ∃ content, others.root = files.root.place file (.file content)
  workingDirectory : others.workingDirectory = files.workingDirectory
  listed : ∀ path, ControlFile.DirectoryBelow files root path →
    others.isBarred path = files.isBarred path
  opened : ∀ standing path, ControlFile.NamedBelow files root standing path →
    files.LeadsToFile path → ¬ files.LeadsTo path file → others.isBarred path = files.isBarred path

/-- A path to the changed place leads there in both. -/
theorem EqualBut.leadsTo (equal : EqualBut (· = file) files others)
    (leads : files.LeadsTo path file) : others.LeadsTo path file := by
  obtain ⟨node, known⟩ := leads
  rcases equal.target_alike path with ⟨error, first, -⟩ | ⟨outcome, other, alike, first, second⟩
  · cases known.symm.trans first
  · rw [known] at first
    cases alike with
    | refused reason => cases first
    | nowhere reason another => cases first
    | free directory name => cases first
    | found same =>
      obtain ⟨rfl, rfl⟩ := Target.present.inj (Except.ok.inj first)
      exact ⟨_, second⟩
    -- The second look-up ends at a changed place, and there is only one.
    | ended there leaf =>
      subst there
      exact ⟨_, second⟩

namespace DifferIn

/-- Both trees are the same at any other place. -/
theorem sameBut (wellFormed : files.WellFormed) (differ : DifferIn root file files others) :
    SameBut (· = file) files.root others.root := by
  obtain ⟨old, there⟩ := differ.present
  obtain ⟨content, now⟩ := differ.replaced
  obtain ⟨directory, name, entries, rfl, -, inside⟩ := wellFormed.exists_directory there
  rw [now]
  refine ⟨fun place elsewhere => ?_, ?_, ?_⟩
  -- A file has been replaced by a file, so that no directory has gone and none has come.
  · refine Node.at?_place_of_ne inside (by simp [Node.isDirectory]) (fun children entry => ?_)
      elsewhere
    cases there.symm.trans (Node.at?_of_lookup inside entry)
  · rintro place node rfl known
    exact ⟨old, Option.some_inj.mp (known.symm.trans there)⟩
  · rintro place rfl
    exact ⟨content, Node.at?_place inside⟩

theorem sameBut_symm (wellFormed : files.WellFormed) (differ : DifferIn root file files others) :
    SameBut (· = file) others.root files.root where
  elsewhere place unchanged := ((differ.sameBut wellFormed).elsewhere place unchanged).symm
  before := by
    rintro place node rfl known
    obtain ⟨content, now⟩ := (differ.sameBut wellFormed).after place rfl
    exact ⟨content, Option.some_inj.mp (known.symm.trans now)⟩
  after := by
    rintro place rfl
    exact differ.present

/-- But for what is barred, either file system holds the same as the other. -/
theorem equalBut (wellFormed : files.WellFormed) (differ : DifferIn root file files others) :
    EqualBut (· = file) files { others with barred := files.barred } := by
  have same : SameBut (· = file) files.root others.root := differ.sameBut wellFormed
  exact ⟨same, differ.workingDirectory, rfl⟩

theorem equalBut_symm (wellFormed : files.WellFormed) (differ : DifferIn root file files others) :
    EqualBut (· = file) { others with barred := files.barred } files := by
  have same : SameBut (· = file) others.root files.root := differ.sameBut_symm wellFormed
  exact ⟨same, differ.workingDirectory.symm, rfl⟩

/-- The other file system is well formed, too. -/
theorem wellFormed_other (wellFormed : files.WellFormed)
    (differ : DifferIn root file files others) : others.WellFormed := by
  have same := differ.sameBut wellFormed
  obtain ⟨old, there⟩ := differ.present
  obtain ⟨content, now⟩ := differ.replaced
  obtain ⟨directory, name, entries, rfl, isName, inside⟩ := wellFormed.exists_directory there
  refine ⟨?_, ?_, ?_⟩
  · rw [now]
    exact wellFormed.tree.place inside isName (.file content)
  · obtain ⟨children, top⟩ := wellFormed.top
    obtain ⟨children, here⟩ := (same.directory_iff []).mpr ⟨children, by rw [top, Node.at?_nil]⟩
    exact ⟨children, Option.some_inj.mp (Node.at?_nil.symm.trans here)⟩
  · rw [differ.workingDirectory]
    exact (same.directory_iff _).mpr wellFormed.home

/-! ### What does not differ -/

/-- The same paths lead to the file. -/
theorem leadsTo_iff (wellFormed : files.WellFormed) (differ : DifferIn root file files others) :
    others.LeadsTo path file ↔ files.LeadsTo path file :=
  ⟨(differ.equalBut_symm wellFormed).leadsTo, (differ.equalBut wellFormed).leadsTo⟩

theorem isFile_of_leadsTo (present : ∃ content, files.root.at? file = some (.file content))
    (leads : files.LeadsTo path file) : files.isFile path = .ok true := by
  obtain ⟨content, there⟩ := present
  obtain ⟨node, known⟩ := leads
  obtain rfl := Option.some_inj.mp ((at?_of_target known).symm.trans there)
  exact isFile_eq_true_iff.mpr ⟨file, content, known⟩

/-- Every path is tested with the same answer: what leads to the file is a file in both. -/
theorem isFile_eq (wellFormed : files.WellFormed) (differ : DifferIn root file files others)
    (path : String) : others.isFile path = files.isFile path := by
  by_cases leads : others.LeadsTo path file
  · rw [isFile_of_leadsTo ((differ.sameBut wellFormed).after file rfl) leads,
      isFile_of_leadsTo differ.present ((differ.leadsTo_iff wellFormed).mp leads)]
  · exact (differ.equalBut wellFormed).isFile_eq fun place node same known =>
      leads ⟨node, same ▸ known⟩

/-- A control file is read with the same content, if it does not lead to the file. -/
theorem readPermitted_eq {standing : Location} (wellFormed : files.WellFormed)
    (differ : DifferIn root file files others)
    (named : ControlFile.NamedBelow files root standing path) (leads : files.LeadsToFile path)
    (apart : ¬ files.LeadsTo path file) :
    others.readPermitted path = files.readPermitted path := by
  have content : others.read path = files.read path :=
    (differ.equalBut wellFormed).read_eq leads fun place node same known =>
      apart ((differ.leadsTo_iff wellFormed).mp ⟨node, same ▸ known⟩)
  rw [readPermitted, readPermitted, differ.opened standing path named leads apart, content]

/-- Both trees have the same files and links, whatever is in the file. -/
theorem leaf_iff (wellFormed : files.WellFormed) (differ : DifferIn root file files others)
    (place : Location) :
    (∃ node, others.root.at? place = some node ∧ node.isDirectory = false) ↔
      ∃ node, files.root.at? place = some node ∧ node.isDirectory = false := by
  have same := differ.sameBut wellFormed
  by_cases there : place = file
  · subst there
    obtain ⟨old, before⟩ := differ.present
    obtain ⟨content, after⟩ := same.after place rfl
    exact ⟨fun _ => ⟨_, before, rfl⟩, fun _ => ⟨_, after, rfl⟩⟩
  · exact same.leaf_iff there

end DifferIn

/-! ### The places of the paths of a search -/

variable {top : Path} {names : List String}

/-- A place after one more component of a path, by the text alone. -/
def stepFrom (location : Location) (step : String) : Location :=
  if step == "." then location else if step == ".." then location.dropLast else location ++ [step]

theorem foldl_stepFrom (isName : ∀ name ∈ names, Node.IsName name) (here : Location) :
    names.foldl stepFrom here = here ++ names := by
  induction names generalizing here with
  | nil => simp
  | cons name names ih =>
    obtain ⟨first, rest⟩ := List.forall_mem_cons.mp isName
    have onward : stepFrom here name = here ++ [name] := by
      rw [stepFrom, if_neg (by simpa using first.piece.2.1),
        if_neg (by simpa using first.ne_parent)]
    rw [List.foldl_cons, onward, ih rest, List.append_assoc, List.singleton_append]

/-- The place of a path by its text: its components, from where a look-up starts. -/
theorem lexical_eq (files : FileSystem) (path : String) :
    files.lexical path = (Path.components path).foldl stepFrom
      (if Path.isAbsolute path then [] else files.workingDirectory) := rfl

/-- The place of a tidy path by its text: its names, from where a look-up starts. -/
theorem lexical_text (files : FileSystem) (tidy : top.Tidy) :
    files.lexical top.text =
      top.names.foldl stepFrom (if top.anchor != "" then [] else files.workingDirectory) := by
  rw [lexical_eq, Path.isAbsolute_text tidy]
  by_cases proper : top.anchor ≠ "" ∨ top.names ≠ []
  · rw [Path.components_text tidy proper]
  · obtain ⟨anchor, none⟩ := not_or.mp proper
    rw [Path.text_eq_dot (not_not.mp anchor) (not_not.mp none), not_not.mp none]
    rfl

/-- Names below a tidy path go on from its place. -/
theorem lexical_descend (files : FileSystem) (tidy : top.Tidy)
    (isName : ∀ name ∈ names, Node.IsName name) :
    files.lexical (top.descend names).text = files.lexical top.text ++ names := by
  rw [lexical_text files (tidy.descend fun name inside => (isName name inside).piece),
    lexical_text files tidy, Path.descend, List.foldl_append, foldl_stepFrom isName]

/-- So do names that are appended to its text. -/
theorem lexical_joinAll (files : FileSystem) (tidy : top.Tidy)
    (isName : ∀ name ∈ names, Node.IsName name) :
    files.lexical (Path.joinAll top.text names) = files.lexical top.text ++ names := by
  have named := Path.text_ne_empty tidy
  rw [lexical_eq, lexical_eq, Path.isAbsolute_joinAll named,
    Path.components_joinAll named fun name inside => (isName name inside).piece,
    List.foldl_append, foldl_stepFrom isName]

/-! ### Files that differ -/

/-- A directory below the root of a search is not the file, whatever path of a candidate leads to
it. -/
theorem not_leadsTo_of_directory {location : Location} (wellFormed : files.WellFormed)
    (present : ∃ content, files.root.at? file = some (.file content))
    (start : files.target .find (ControlFile.searchRoot files root) =
      .ok (.present place (.directory entries)))
    (reached : files.root.at? (place ++ location) = some (.directory children)) :
    ¬ files.LeadsTo ((ControlFile.searchPath files root).descend location).text file := by
  rintro ⟨node, leads⟩
  have here := at?_of_target start
  have inTree : (Node.directory entries).at? location = some (.directory children) := by
    rw [← Node.at?_append_of_at? here, reached]
  obtain ⟨-, names⟩ := (wellFormed.tree.at? here).1.at? inTree
  rw [ControlFile.searchRoot_eq] at start
  obtain ⟨content, there⟩ := present
  by_cases proper : location = []
  · subst proper
    rw [Path.descend_nil, start] at leads
    obtain ⟨rfl, -⟩ := Target.present.inj (Except.ok.inj leads)
    cases there.symm.trans here
  · obtain ⟨-, short, -, -⟩ := target_eq_ok_iff.mp leads
    have directory := target_descend (ControlFile.tidy_searchPath wellFormed) start inTree names
      (by simp) proper short
    obtain ⟨rfl, -⟩ := Target.present.inj (Except.ok.inj (leads.symm.trans directory))
    cases there.symm.trans reached

/-- The names on the way to a name of a control file are names of entries, and so is this one. -/
theorem isName_of_namedBelow {location : Location} {name : String} (wellFormed : files.WellFormed)
    (reached : files.root.at? (place ++ location) = some (.directory children))
    (listed : name ∈ children.map (·.1)) : ∀ above ∈ location ++ [name], Node.IsName above := by
  obtain ⟨childrenWellFormed, names⟩ := wellFormed.tree.at? reached
  obtain ⟨⟨_, node⟩, inside, rfl⟩ := List.mem_map.mp listed
  intro above member
  rcases List.mem_append.mp member with before | last
  · exact names above (List.mem_append_right place before)
  · obtain rfl := List.mem_singleton.mp last
    exact childrenWellFormed.isName inside

/-- An entry whose path leads to the file is no directory. -/
theorem isDirectory_of_leadsTo {location : Location} {name : String} (wellFormed : files.WellFormed)
    (present : ∃ content, files.root.at? file = some (.file content))
    (start : files.target .find (ControlFile.searchRoot files root) =
      .ok (.present place (.directory entries)))
    (reached : files.root.at? (place ++ location) = some (.directory children))
    (inside : (name, node) ∈ children)
    (leads : files.LeadsTo
      (ControlFile.candidatePath (ControlFile.searchPath files root) (location, name)) file) :
    node.isDirectory = false := by
  cases node with
  | file content => rfl
  | link text => rfl
  | directory below =>
    have there := (Node.mem_iff_at? wellFormed.tree reached).mp inside
    rw [List.append_assoc] at there
    rw [ControlFile.candidatePath_eq] at leads
    exact absurd leads (not_leadsTo_of_directory wellFormed present start there)

/-- Two file systems differ in a file if they hold the same but for its bytes, and the same places
below the root are barred but for those whose paths lead to the file. -/
theorem differIn_of_barred (wellFormed : files.WellFormed)
    (present : ∃ content, files.root.at? file = some (.file content))
    (replaced : ∃ content, others.root = files.root.place file (.file content))
    (workingDirectory : others.workingDirectory = files.workingDirectory)
    (same : ∀ location,
      ¬ files.LeadsTo ((ControlFile.searchPath files root).descend location).text file →
        (files.lexical (ControlFile.searchRoot files root) ++ location ∈ others.barred ↔
          files.lexical (ControlFile.searchRoot files root) ++ location ∈ files.barred)) :
    DifferIn root file files others := by
  have tidy : (ControlFile.searchPath files root).Tidy := ControlFile.tidy_searchPath wellFormed
  -- Both read the same places off a path.
  have agree {path : String} {location : Location}
      (apart : ¬ files.LeadsTo ((ControlFile.searchPath files root).descend location).text file)
      (lexical : files.lexical path =
        files.lexical (ControlFile.searchRoot files root) ++ location) :
      others.isBarred path = files.isBarred path := by
    have otherLexical : others.lexical path = files.lexical path := by
      rw [lexical_eq, lexical_eq, workingDirectory]
    rw [isBarred, isBarred, otherLexical, lexical, Bool.eq_iff_iff, List.contains_iff_mem,
      List.contains_iff_mem]
    exact same location apart
  refine ⟨present, replaced, workingDirectory, ?_, ?_⟩
  · rintro _ ⟨start, reached⟩
    obtain ⟨-, names⟩ := wellFormed.tree.at? reached
    refine agree (not_leadsTo_of_directory wellFormed present start reached) ?_
    rw [ControlFile.searchRoot_eq]
    exact lexical_joinAll files tidy fun name inside => names name (List.mem_append_right _ inside)
  · rintro _ _ ⟨start, reached, listed, named⟩ - apart
    have names := isName_of_namedBelow wellFormed reached listed
    rw [ControlFile.candidatePath_eq] at apart ⊢
    refine agree apart ?_
    rw [ControlFile.searchRoot_eq]
    exact lexical_descend files tidy names

/-- The paths that a search takes to a file are finitely many: they have their places in a list that
has no other place below the root. -/
theorem exists_places (wellFormed : files.WellFormed) (root : Option String)
    (present : ∃ content, files.root.at? file = some (.file content)) :
    ∃ places : List Location,
      (∀ location, files.lexical (ControlFile.searchRoot files root) ++ location ∈ places →
        files.LeadsTo ((ControlFile.searchPath files root).descend location).text file) ∧
      ∀ standing path, ControlFile.NamedBelow files root standing path →
        files.LeadsTo path file → files.lexical path ∈ places := by
  classical
  by_cases begins : ∃ place entries, files.target .find (ControlFile.searchRoot files root) =
      .ok (.present place (.directory entries))
  case neg => exact ⟨[], by simp, fun _ _ named => absurd named.exists_start begins⟩
  obtain ⟨place, entries, start⟩ := begins
  have here := at?_of_target start
  have treeWellFormed := (wellFormed.tree.at? here).1
  refine ⟨((Node.candidates entries).filter fun candidate => decide (files.LeadsTo
    (ControlFile.candidatePath (ControlFile.searchPath files root) candidate) file)).map
      fun candidate => files.lexical (ControlFile.searchRoot files root) ++
        (candidate.1 ++ [candidate.2]), fun location member => ?_, ?_⟩
  · obtain ⟨⟨front, last⟩, kept, same⟩ := List.mem_map.mp member
    obtain rfl : front ++ [last] = location := List.append_cancel_left same
    rw [← ControlFile.candidatePath_eq]
    exact of_decide_eq_true (List.mem_filter.mp kept).2
  · rintro _ path ⟨again, reached, listed, named⟩ leads
    rename_i location inner children name id
    obtain ⟨rfl, same⟩ := Target.present.inj (Except.ok.inj (start.symm.trans again))
    obtain rfl := Node.directory.inj same
    have names := isName_of_namedBelow wellFormed reached listed
    obtain ⟨⟨_, node⟩, inside, rfl⟩ := List.mem_map.mp listed
    have leaf := isDirectory_of_leadsTo wellFormed present start reached inside leads
    have inTree : (Node.directory entries).at? location = some (.directory children) := by
      rw [← Node.at?_append_of_at? here, reached]
    have candidate :=
      (Node.mem_candidates treeWellFormed).mpr ⟨children, node, inTree, inside, leaf⟩
    refine List.mem_map.mpr ⟨_, List.mem_filter.mpr ⟨candidate, decide_eq_true leads⟩, ?_⟩
    rw [ControlFile.candidatePath_eq, ControlFile.searchRoot_eq]
    exact (lexical_descend files (ControlFile.tidy_searchPath wellFormed) names).symm

/-- In any file system any file can differ in any way: another file system differs from it in this
file only, holds any other bytes in it, and lets it be opened by every path that a search takes to
it, or by none. -/
theorem exists_differIn (wellFormed : files.WellFormed) (root : Option String)
    (present : ∃ old, files.root.at? file = some (.file old)) (content : List UInt8)
    (readable : Bool) :
    ∃ others, DifferIn root file files others ∧ others.root.at? file = some (.file content) ∧
      ∀ standing path, ControlFile.NamedBelow files root standing path →
        files.LeadsTo path file → others.isBarred path = !readable := by
  obtain ⟨places, only, all⟩ := exists_places wellFormed root present
  let barred := if readable then files.barred.filter (· ∉ places) else places ++ files.barred
  refine ⟨⟨files.root.place file (.file content), files.workingDirectory, barred⟩, ?_, ?_, ?_⟩
  · refine differIn_of_barred wellFormed present ⟨content, rfl⟩ rfl fun location apart => ?_
    have elsewhere := mt (only location) apart
    cases readable <;> simp [barred, elsewhere]
  · obtain ⟨old, there⟩ := present
    obtain ⟨directory, name, siblings, rfl, -, inside⟩ := wellFormed.exists_directory there
    exact Node.at?_place inside
  · intro standing path named leads
    have listed := all standing path named leads
    have known : files.lexical path ∈ barred ↔ readable = false := by
      cases readable <;> simp [barred, listed]
    rw [isBarred, Bool.eq_iff_iff, List.contains_iff_mem]
    exact known.trans (by simp)

end FileSystem

namespace ControlFile

open FileSystem (DifferIn)

/-! ### Searching -/

/-- A search that does not start in a directory finds nothing. -/
theorem eq_nil_of_discover (wellFormed : files.WellFormed)
    (nowhere : ∀ place entries,
      files.target .find (searchRoot files root) ≠ .ok (.present place (.directory entries)))
    (known : (discover files root).result = .ok found) : found = [] := by
  rcases discover_cases wellFormed known with rfl | ⟨entries, gathered, listed, -, -⟩
  · rfl
  · obtain ⟨-, place, start⟩ := FileSystem.list_eq_ok_iff.mp listed
    exact absurd start (nowhere place entries)

/-- A search that starts in a directory does not notice that a file differs. -/
theorem discover_differIn (wellFormed : files.WellFormed) (differ : DifferIn root file files others)
    (start : files.target .find (searchRoot files root) =
      .ok (.present place (.directory entries))) :
    discover others root = discover files root := by
  have equal := differ.equalBut wellFormed
  have same := differ.sameBut wellFormed
  have otherWellFormed := differ.wellFormed_other wellFormed
  have tidy : (searchPath files root).Tidy := tidy_searchPath wellFormed
  have here := FileSystem.at?_of_target start
  obtain ⟨otherEntries, otherStart⟩ := equal.target_directory start
  have top : files.root.at? (place ++ []) = some (.directory entries) := by
    rw [List.append_nil, here]
  refine discover_congr_of_met wellFormed otherWellFormed (searchRoot_congr equal root)
    (differ.listed _ (.intro start top)) start otherStart same.directory_iff ?_
  intro location children otherChildren reached otherReached inTree
  obtain ⟨childrenWellFormed, names⟩ := (wellFormed.tree.at? here).1.at? inTree
  have otherChildrenWellFormed := (otherWellFormed.tree.at? otherReached).1
  -- The directory is barred in both or in neither, however long its path is.
  have barred := differ.listed _ (.intro start reached)
  rw [searchRoot_eq] at barred ⊢
  have listed : Node.controlNames otherChildren = Node.controlNames children := by
    cases childrenWellFormed with
    | directory distinct =>
    cases otherChildrenWellFormed with
    | directory otherDistinct =>
    refine Node.controlNames_congr distinct otherDistinct fun name id named => ?_
    simp only [Node.mem_iff_at? wellFormed.tree reached,
      Node.mem_iff_at? otherWellFormed.tree otherReached]
    exact differ.leaf_iff wellFormed _
  refine ofReached_congr tidy childrenWellFormed otherChildrenWellFormed names ?_ listed
    fun name node id _ _ _ => differ.isFile_eq wellFormed _
  rw [FileSystem.obstacle?, FileSystem.obstacle?, barred]

/-- Two searches that both give a result give the same. -/
theorem found_eq_of_differIn {otherFound : List ControlFile} (wellFormed : files.WellFormed)
    (differ : DifferIn root file files others) (known : (discover files root).result = .ok found)
    (otherKnown : (discover others root).result = .ok otherFound) : otherFound = found := by
  by_cases start : ∃ place entries,
      files.target .find (searchRoot files root) = .ok (.present place (.directory entries))
  · obtain ⟨place, entries, start⟩ := start
    rw [discover_differIn wellFormed differ start, known] at otherKnown
    exact (Except.ok.inj otherKnown).symm
  -- Without a directory to start in both find nothing, though they may be refused for different
  -- reasons: the root may lead to the file itself, or to a barred name where nothing stands.
  · have nowhere : ∀ place entries,
        files.target .find (searchRoot files root) ≠ .ok (.present place (.directory entries)) :=
      fun place entries known => start ⟨place, entries, known⟩
    have root_eq : searchRoot others root = searchRoot files root :=
      searchRoot_congr (differ.equalBut wellFormed) root
    have otherNowhere : ∀ place entries,
        others.target .find (searchRoot others root) ≠
          .ok (.present place (.directory entries)) := by
      intro place entries otherStart
      rw [root_eq] at otherStart
      obtain ⟨children, there⟩ := (differ.equalBut_symm wellFormed).target_directory otherStart
      exact nowhere place children there
    rw [eq_nil_of_discover wellFormed nowhere known,
      eq_nil_of_discover (differ.wellFormed_other wellFormed) otherNowhere otherKnown]

end ControlFile

/-! ### What is told of each control file -/

namespace RawMarker

variable {bytes : List UInt8}

/-- A line of the bytes has a first marker with more than 4300 digits of an index. -/
def HasOverlongIndex (bytes : List UInt8) : Prop :=
  ∃ line ∈ bytes.splitOn 0x0A, ∃ digits, digits? line = some digits ∧ 4300 < digits.length

/-- The markers in bytes have the digits that stand behind the first instruction on a line. -/
theorem exists_line_iff {digits : List UInt8} :
    (∃ line ∈ bytes.splitOn 0x0A, digits? line = some digits) ↔
      ∃ number, ⟨number, digits⟩ ∈ scan bytes := by
  constructor
  · rintro ⟨line, member, taken⟩
    obtain ⟨index, here⟩ := List.mem_iff_getElem?.mp member
    exact ⟨index + 1, mem_scanLines.mpr ⟨line, Nat.le_add_left 1 index, here, taken⟩⟩
  · rintro ⟨number, member⟩
    obtain ⟨line, -, here, taken⟩ := mem_scanLines.mp member
    exact ⟨line, List.mem_of_getElem? here, taken⟩

/-- Reading markers fails only at an index that is too long. -/
theorem exists_of_reading_eq_error {earlier : List Marker} {found : List RawMarker} {length : Nat}
    (failed : reading earlier found = .error (.numeralTooLong length)) :
    ∃ marker ∈ found, Numeral.maxDigits < marker.digits.length ∧ marker.digits.length = length := by
  rw [reading] at failed
  cases met : found.find? isTooLong with
  | none =>
    rw [met] at failed
    cases failed
  | some marker =>
    rw [met] at failed
    have long : isTooLong marker = true := List.find?_some met
    exact ⟨marker, List.mem_of_find?_eq_some met, of_decide_eq_true long,
      Failure.numeralTooLong.inj (Except.error.inj failed)⟩

end RawMarker

namespace ControlFile

open FileSystem (DifferIn)

/-- The markers of a control file that has been loaded, and the one message about it. Where it
cannot be opened, or an index in it is too long, it has no markers, and the message is a warning
with its path. -/
inductive Accounts (files : FileSystem) : ControlFile → Message → Prop
  | read {entry : ControlFile} {bytes : List UInt8}
      (opened : files.readPermitted entry.path = .ok bytes)
      (short : ¬ RawMarker.HasOverlongIndex bytes) :
    Accounts files entry
      ⟨.debug,
        "Found " ++ Numeral.text entry.markers.length ++ " SAVE_TIMESTAMPS in " ++ entry.path⟩
  | unopened {entry : ControlFile} {error : AccessError}
      (refused : files.readPermitted entry.path = .error error) (empty : entry.markers = []) :
    Accounts files entry ⟨.warning, "Unable to open ASM file: " ++ entry.path⟩
  | overlong {entry : ControlFile} {bytes line digits : List UInt8}
      (opened : files.readPermitted entry.path = .ok bytes) (member : line ∈ bytes.splitOn 0x0A)
      (taken : RawMarker.digits? line = some digits) (long : 4300 < digits.length)
      (empty : entry.markers = []) :
    Accounts files entry
      ⟨.warning, "Error parsing SAVE_TIMESTAMPS in " ++ entry.path ++ ": " ++
        (Failure.numeralTooLong digits.length).message⟩

theorem Reads.accounts {markers : List Marker} (reads : Reads files entry message markers) :
    Accounts files { entry with markers := markers } message := by
  cases reads with
  | counted read =>
    cases opened : files.readPermitted entry.path with
    | error error =>
      rw [markersAt, opened] at read
      cases read
    | ok bytes =>
      rw [RawMarker.markersAt_eq_reading opened] at read
      refine .read opened ?_
      rintro ⟨line, member, digits, taken, long⟩
      obtain ⟨number, scanned⟩ := RawMarker.exists_line_iff.mp ⟨line, member, taken⟩
      obtain ⟨first, -, -, failed⟩ := RawMarker.exists_reading_eq_error scanned long
      cases read.symm.trans failed
  | unopened refused => exact .unopened refused rfl
  | overlong failed =>
    cases opened : files.readPermitted entry.path with
    | error error =>
      rw [markersAt, opened] at failed
      cases failed
    | ok bytes =>
      rw [RawMarker.markersAt_eq_reading opened] at failed
      obtain ⟨⟨number, digits⟩, scanned, long, rfl⟩ := RawMarker.exists_of_reading_eq_error failed
      obtain ⟨line, member, taken⟩ := RawMarker.exists_line_iff.mpr ⟨number, scanned⟩
      exact .overlong opened member taken long rfl

/-- A control file that cannot be opened has no markers, and a warning. -/
theorem Accounts.of_refused {error : AccessError} (accounts : Accounts files entry message)
    (refused : files.readPermitted entry.path = .error error) :
    message = ⟨.warning, "Unable to open ASM file: " ++ entry.path⟩ ∧ entry.markers = [] := by
  cases accounts with
  | read opened => cases refused.symm.trans opened
  | unopened _ empty => exact ⟨rfl, empty⟩
  | overlong opened => cases refused.symm.trans opened

/-- What loading tells: what the search has met, and then one message for each control file. -/
def TellsOfEach (files : FileSystem) (root : Option String) (loaded : List ControlFile) : Prop :=
  ∃ (walk : List ControlFile) (obstacle : Option AccessError) (told : List Message),
    (load files root).messages =
      walk.map foundMessage ++ obstacle.toList.map blockedMessage ++ told ∧
    List.Forall₂ (Accounts files) loaded told

theorem load_report (known : (load files root).result = .ok loaded) :
    TellsOfEach files root loaded := by
  obtain ⟨found, discovered, read, messages⟩ := Report.messages_of_bind known
  obtain ⟨walk, obstacle, walks, rfl, report⟩ := discover_report discovered
  change (load files root).messages = _ at messages
  rw [withMarkers_report] at read messages
  obtain rfl := Except.ok.inj read
  rw [report] at messages
  refine ⟨walk, obstacle, _, messages, ?_⟩
  rw [List.forall₂_map_left_iff, List.forall₂_map_right_iff, List.forall₂_same]
  intro file member
  exact (reads_markersMessage (walks.isFile (List.mem_mergeSort.mp member))).accounts

/-! ### Loading -/

/-- One control file, as it has been loaded from two file systems that differ in a file: what is
known from its path is the same, and so are its markers unless it leads to that file. -/
structure Corresponds (files : FileSystem) (file : Location) (entry other : ControlFile) : Prop
    where
  path : other.path = entry.path
  id : other.id = entry.id
  numbers : other.derivedNumbers = entry.derivedNumbers
  markers : ¬ files.LeadsTo entry.path file → other.markers = entry.markers

theorem corresponds_marked {standing : Location} (wellFormed : files.WellFormed)
    (differ : DifferIn root file files others)
    (named : NamedBelow files root standing entry.path) (leads : files.LeadsToFile entry.path) :
    Corresponds files file (marked files entry) (marked others entry) where
  path := rfl
  id := rfl
  numbers := rfl
  markers apart := by
    have content := differ.readPermitted_eq wellFormed named leads apart
    rw [marked, marked, markersOf, markersOf, markersAt, markersAt, content]

/-- Two file systems that differ in the bytes or in the readability of one file are loaded below a
root with the same control files, in the same order and with the same numbers, and with the same
markers but where a path leads to that file. Loading gives a result, unless there is a null
character in the path of its root; it tells of each control file in one message, and this is a
warning exactly if the control file cannot be opened or has an index that is too long, and then it
has no markers. -/
theorem load_of_differIn (wellFormed : files.WellFormed)
    (differ : DifferIn root file files others) :
    ((∀ path, root = some path → '\x00' ∉ path.toList) →
      ∃ loaded otherLoaded, (load files root).result = .ok loaded ∧
        (load others root).result = .ok otherLoaded) ∧
    (∀ loaded otherLoaded, (load files root).result = .ok loaded →
      (load others root).result = .ok otherLoaded →
        List.Forall₂ (Corresponds files file) loaded otherLoaded) ∧
    ∀ either loaded, (load either root).result = .ok loaded → TellsOfEach either root loaded := by
  refine ⟨fun whole => ?_, fun loaded otherLoaded known otherKnown => ?_,
    fun either loaded => load_report⟩
  · obtain ⟨found, known⟩ := exists_discover_eq_ok wellFormed whole
    obtain ⟨otherFound, otherKnown⟩ :=
      exists_discover_eq_ok (differ.wellFormed_other wellFormed) whole
    exact ⟨_, _, load_result_eq_ok_iff.mpr ⟨found, known, rfl⟩,
      load_result_eq_ok_iff.mpr ⟨otherFound, otherKnown, rfl⟩⟩
  · obtain ⟨found, discovered, rfl⟩ := load_result_eq_ok_iff.mp known
    obtain ⟨otherFound, otherDiscovered, rfl⟩ := load_result_eq_ok_iff.mp otherKnown
    obtain rfl := found_eq_of_differIn wellFormed differ discovered otherDiscovered
    rw [List.forall₂_map_left_iff, List.forall₂_map_right_iff, List.forall₂_same]
    intro entry member
    obtain ⟨standing, named⟩ := exists_namedBelow_of_mem_discover wellFormed discovered member
    have leads := leadsToFile_of_mem_discover wellFormed discovered member
    exact corresponds_marked wellFormed differ named leads

/-- A directory with a listing of its own and a directory in it. -/
def innerEntries : List (String × Node) :=
  [("aie_runtime_control2.asm", .file (Utf8.encode "SAVE_TIMESTAMPS 9\n".toList)),
    ("sub", .directory [])]

/-- A listing, another one with the given bytes, and a link to that one between them. By the link at
the end the path `side/../aie_runtime_control2.asm` leads to the inner listing, though its text is
that of the outer one. -/
def aliasedEntries (content : List UInt8) : List (String × Node) :=
  [("aie_runtime_control0.asm", .file (Utf8.encode "SAVE_TIMESTAMPS 7\n".toList)),
    ("aie_runtime_control1.asm", .link "aie_runtime_control2.asm"),
    ("aie_runtime_control2.asm", .file content), ("b", .directory innerEntries),
    ("side", .link "b/sub")]

/-- A file system with a marker in the listing that the link leads to. -/
def aliasedFiles : FileSystem :=
  ⟨.directory (aliasedEntries (Utf8.encode "SAVE_TIMESTAMPS\n".toList)), [], []⟩

/-- The same file system with this listing empty and unreadable, by its own name and by the link. -/
def lockedFiles : FileSystem :=
  ⟨.directory (aliasedEntries []), [],
    [["aie_runtime_control1.asm"], ["aie_runtime_control2.asm"]]⟩

theorem differIn_lockedFiles :
    DifferIn none ["aie_runtime_control2.asm"] aliasedFiles lockedFiles := by
  refine FileSystem.differIn_of_barred (by decide) ⟨_, rfl⟩ ⟨[], rfl⟩ rfl fun location apart => ?_
  have lexical : aliasedFiles.lexical (searchRoot aliasedFiles none) = [] := rfl
  rw [lexical, List.nil_append]
  refine iff_of_false (fun member => apart ?_) List.not_mem_nil
  simp only [lockedFiles, List.mem_cons, List.not_mem_nil, or_false] at member
  rcases member with rfl | rfl
  · exact ⟨_, rfl⟩
  · exact ⟨_, rfl⟩

theorem visits_aliasedFiles :
    searchVisits aliasedFiles "/" =
      [ofPath "/aie_runtime_control0.asm" 0, ofPath "/aie_runtime_control1.asm" 1,
        ofPath "/aie_runtime_control2.asm" 2, ofPath "/b/aie_runtime_control2.asm" 2].map
          Visit.found := by
  have single {α : Type} (entry : String × α) : sortByName [entry] = [entry] :=
    sortByName_of_pairwise (List.pairwise_singleton _ _)
  have ordered (content : List UInt8) :
      sortByName ((aliasedEntries content).filter fun entry => !entry.2.isDirectory) =
        (aliasedEntries content).filter fun entry => !entry.2.isDirectory :=
    sortByName_of_pairwise (by simp [aliasedEntries, Node.isDirectory])
  have innerOrdered : sortByName (innerEntries.filter fun entry => !entry.2.isDirectory) =
      innerEntries.filter fun entry => !entry.2.isDirectory := single _
  have below (content : List UInt8) :
      realDirectories (aliasedEntries content) = [("b", innerEntries)] := rfl
  have innerBelow : realDirectories innerEntries = [("sub", [])] := rfl
  have empty : Visit.ofSubdirectory aliasedFiles "/b" ("sub", []) = [] := by
    rw [Visit.ofSubdirectory_of_free rfl, Visit.visits_directory, Visit.ofDirectory]
    simp [realDirectories, sortByName]
  have inner : Visit.ofSubdirectory aliasedFiles "/" ("b", innerEntries) =
      [.found (ofPath "/b/aie_runtime_control2.asm" 2)] := by
    have join : Path.join "/" "b" = "/b" := rfl
    rw [Visit.ofSubdirectory_of_free rfl, join, Visit.visits_directory, Visit.ofDirectory,
      innerOrdered, innerBelow, single, List.flatMap_singleton, empty]
    rfl
  have listed : aliasedFiles.list "/" = .ok (aliasedEntries _) := rfl
  rw [searchVisits, listed]
  dsimp only
  rw [Visit.visits_directory, Visit.ofDirectory, ordered, below, single, List.flatMap_singleton,
    inner]
  rfl

theorem discover_aliasedFiles :
    (discover aliasedFiles none).result =
      .ok [ofPath "/aie_runtime_control0.asm" 0, ofPath "/aie_runtime_control1.asm" 1,
        ofPath "/aie_runtime_control2.asm" 2, ofPath "/b/aie_runtime_control2.asm" 2] := by
  have top : searchRoot aliasedFiles none = "/" := rfl
  rw [discover, top, visits_aliasedFiles, gather_found, Report.bind_ok]
  exact congrArg Except.ok (List.mergeSort_of_pairwise (by decide))

/-- A listing is emptied and made unreadable, by its own name and by the link to it. The same four
control files are loaded; the two that lead to this listing have no markers, and each of them is
reported with a warning, and the first and the last one keep theirs. -/
theorem load_lockedFiles :
    aliasedFiles.WellFormed ∧
      DifferIn none ["aie_runtime_control2.asm"] aliasedFiles lockedFiles ∧
      ∃ first second third fourth earlier message other,
        (load lockedFiles none).result = .ok [first, second, third, fourth] ∧
        first.markers = [⟨1, some 7⟩] ∧ second.markers = [] ∧ third.markers = [] ∧
        fourth.markers = [⟨1, some 9⟩] ∧
        (load lockedFiles none).messages = earlier ++
          [message, ⟨.warning, "Unable to open ASM file: /aie_runtime_control1.asm"⟩,
            ⟨.warning, "Unable to open ASM file: /aie_runtime_control2.asm"⟩, other] := by
  have wellFormed : aliasedFiles.WellFormed := by decide
  obtain ⟨returns, corresponds, tells⟩ := load_of_differIn wellFormed differIn_lockedFiles
  obtain ⟨loaded, otherLoaded, known, otherKnown⟩ := returns (by simp)
  have each := corresponds loaded otherLoaded known otherKnown
  obtain ⟨found, discovered, rfl⟩ := load_result_eq_ok_iff.mp known
  obtain rfl := Except.ok.inj (discover_aliasedFiles.symm.trans discovered)
  obtain _ | ⟨zero, _ | ⟨one, _ | ⟨two, _ | ⟨three, _ | _⟩⟩⟩⟩ := each
  rename_i first second third fourth
  have secondPath : second.path = "/aie_runtime_control1.asm" := one.path
  have thirdPath : third.path = "/aie_runtime_control2.asm" := two.path
  -- The first path and the last one lead to other places.
  have elsewhere {path : String} {place : Location} {node : Node}
      (leads : aliasedFiles.target .find path = .ok (.present place node))
      (apart : place ≠ ["aie_runtime_control2.asm"]) :
      ¬ aliasedFiles.LeadsTo path ["aie_runtime_control2.asm"] := by
    rintro ⟨other, same⟩
    exact apart (Target.present.inj (Except.ok.inj (leads.symm.trans same))).1
  have firstKept : first.markers = [⟨1, some 7⟩] := by
    rw [zero.markers (elsewhere rfl (by decide))]
    decide +kernel
  have fourthKept : fourth.markers = [⟨1, some 9⟩] := by
    rw [three.markers (elsewhere rfl (by decide))]
    decide +kernel
  obtain ⟨walk, obstacle, told, messages, accounts⟩ := tells lockedFiles _ otherKnown
  obtain _ | ⟨-, _ | ⟨secondAccount, _ | ⟨thirdAccount, _ | ⟨-, _ | _⟩⟩⟩⟩ := accounts
  obtain ⟨rfl, secondEmpty⟩ := secondAccount.of_refused (by rw [secondPath]; rfl)
  obtain ⟨rfl, thirdEmpty⟩ := thirdAccount.of_refused (by rw [thirdPath]; rfl)
  rw [secondPath, thirdPath] at messages
  exact ⟨wellFormed, differIn_lockedFiles, first, second, third, fourth, _, _, _, otherKnown,
    firstKept, secondEmpty, thirdEmpty, fourthKept, messages⟩

end ControlFile

end CounterTrace
