import CounterTrace.Proofs.Resolution

/-!
# Writing a file

A file opened for writing takes the place of a file, or a free name in a directory. Writing it
changes nothing else, and leaves a file system as there can be. From then on the same path leads to
the file, for whatever it is looked up: what has been written is read back, and writing it again
changes nothing.

## Main definitions

* `FileSystem.Rewritten` — a file system in which one file has been written, and nothing else

## Main results

* `FileSystem.writeLocation_cases` — a file to be written is there already or gets a free name in a
  directory
* `FileSystem.rewritten_of_write`, `FileSystem.WellFormed.write` — writing a file changes nothing
  else and leaves a well-formed file system
* `FileSystem.target_of_write` — the path of a file that has been written leads to it
* `FileSystem.read_of_write`, `FileSystem.write_again` — reading it back, and writing it again
-/

namespace CounterTrace.FileSystem

variable {root : Node} {purpose : Purpose} {links : Nat} {here : Location} {steps : List String}
  {target : Target} {files after : FileSystem} {path : String} {location : Location}
  {entries : List (String × Node)} {node : Node} {content : List UInt8}

/-! ### Where a file is written -/

/-- Where a look-up for writing ends: at a file, or at a free name in a directory. -/
theorem writeLocation_eq_ok_iff :
    files.writeLocation path = .ok location ↔ files.isBarred path = false ∧
      ((∃ content, files.target .create path = .ok (.present location (.file content))) ∨
        ∃ directory name, files.target .create path = .ok (.absent directory name) ∧
          location = directory ++ [name]) := by
  rw [writeLocation]
  cases files.isBarred path with
  | true => simp
  | false =>
    rcases files.target .create path with failure | ⟨place, content | text | children⟩ |
      ⟨directory, name⟩ <;> simp [eq_comm]

/-- Opening a file for writing is refused, and not rejected, where the path holds no null
character. -/
theorem writeLocation_ne_nullCharacter (whole : '\x00' ∉ path.toList) :
    files.writeLocation path ≠ .error .nullCharacter := by
  rw [writeLocation]
  split
  · simp
  · rcases found : files.target .create path with failure | ⟨place, content | text | children⟩ |
      ⟨directory, name⟩
    · rintro same
      obtain rfl := Except.error.inj same
      exact whole (target_eq_nullCharacter_iff.mp found)
    all_goals simp

/-- A path that leads to a free name leads to a directory that can have an entry of that name, and
has none. -/
theorem free_of_target {directory : Location} {name : String} (wellFormed : files.WellFormed)
    (known : files.target purpose path = .ok (.absent directory name)) :
    (∃ children, files.root.at? directory = some (.directory children)) ∧
      files.root.at? (directory ++ [name]) = none ∧ Node.IsName name := by
  obtain ⟨whole, -, -, follows⟩ := target_eq_ok_iff.mp known
  obtain ⟨entries, home⟩ := wellFormed.home
  obtain ⟨above, start⟩ := exists_directory_startOf path wellFormed.top home
  obtain ⟨inside, nothing⟩ := follows.directory_of_absent wellFormed.top start
  exact ⟨inside, nothing,
    follows.isName_of_absent wellFormed.tree fun _ => Path.notMem_of_mem_steps whole⟩

/-- Where a file is to be written there is a file, or nothing. -/
theorem file_of_writeLocation (wellFormed : files.WellFormed)
    (granted : files.writeLocation path = .ok location)
    (there : files.root.at? location = some node) : ∃ old, node = .file old := by
  obtain ⟨-, ⟨old, found⟩ | ⟨directory, name, found, rfl⟩⟩ := writeLocation_eq_ok_iff.mp granted
  · exact ⟨old, Option.some_inj.mp (there.symm.trans (at?_of_target found))⟩
  · obtain ⟨-, nothing, -⟩ := free_of_target wellFormed found
    cases there.symm.trans nothing

/-- A file that is opened for writing comes to lie in a directory, under a name that an entry can
have. -/
theorem exists_directory_of_writeLocation (wellFormed : files.WellFormed)
    (granted : files.writeLocation path = .ok location) :
    ∃ directory name entries, location = directory ++ [name] ∧ Node.IsName name ∧
      files.root.at? directory = some (.directory entries) := by
  obtain ⟨-, ⟨content, found⟩ | ⟨directory, name, found, rfl⟩⟩ := writeLocation_eq_ok_iff.mp granted
  · exact wellFormed.exists_directory (at?_of_target found)
  -- A new file: the look-up ended in a directory, at a name that is free there.
  · obtain ⟨⟨entries, inside⟩, -, isName⟩ := free_of_target wellFormed found
    exact ⟨directory, name, entries, rfl, isName, inside⟩

/-- It takes the place of a file there, or a name that is free. -/
theorem writeLocation_cases (wellFormed : files.WellFormed)
    (granted : files.writeLocation path = .ok location) :
    ∃ directory name entries, location = directory ++ [name] ∧ Node.IsName name ∧
      files.root.at? directory = some (.directory entries) ∧
      ∀ children, entries.lookup name ≠ some (.directory children) := by
  obtain ⟨directory, name, entries, rfl, isName, inside⟩ :=
    exists_directory_of_writeLocation wellFormed granted
  refine ⟨directory, name, entries, rfl, isName, inside, fun children entry => ?_⟩
  obtain ⟨old, wrong⟩ :=
    file_of_writeLocation wellFormed granted (Node.at?_of_lookup inside entry)
  cases wrong

/-! ### What writing changes -/

/-- A file system in which the file at a location has been written, and nothing else: at every other
location there is the same file, the same link, or again a directory. -/
structure Rewritten (before after : FileSystem) (location : Location) (content : List UInt8) :
    Prop where
  written : after.root.at? location = some (.file content)
  elsewhere : ∀ other, other ≠ location →
    (after.root.at? other).map Node.bare = (before.root.at? other).map Node.bare
  workingDirectory : after.workingDirectory = before.workingDirectory
  barred : after.barred = before.barred

/-- Writing a file changes nothing else. -/
theorem rewritten_of_write (wellFormed : files.WellFormed)
    (done : files.write path content = .ok after) :
    ∃ location, files.writeLocation path = .ok location ∧
      files.Rewritten after location content := by
  rw [write] at done
  split at done
  · cases done
  · rename_i location granted
    obtain rfl := Except.ok.inj done
    obtain ⟨directory, name, entries, rfl, -, inside, free⟩ :=
      writeLocation_cases wellFormed granted
    refine ⟨_, granted, Node.at?_place inside, fun other elsewhere => ?_, rfl, rfl⟩
    exact Node.at?_place_of_ne inside (by simp [Node.isDirectory]) free elsewhere

theorem Rewritten.at?_directory {other : Location}
    (change : files.Rewritten after location content) (elsewhere : other ≠ location)
    (found : files.root.at? other = some (.directory entries)) :
    ∃ children, after.root.at? other = some (.directory children) := by
  have same := change.elsewhere other elsewhere
  rw [found, Option.map_some, Option.map_eq_some_iff] at same
  obtain ⟨node, there, bare⟩ := same
  cases node with
  | file content => cases bare
  | link text => cases bare
  | directory children => exact ⟨children, there⟩

theorem Rewritten.at?_link {other : Location} {text : String}
    (change : files.Rewritten after location content) (elsewhere : other ≠ location)
    (found : files.root.at? other = some (.link text)) :
    after.root.at? other = some (.link text) := by
  have same := change.elsewhere other elsewhere
  rw [found, Option.map_some, Option.map_eq_some_iff] at same
  obtain ⟨node, there, bare⟩ := same
  cases node with
  | file content => cases bare
  | link other =>
    obtain rfl := Node.link.inj bare
    exact there
  | directory children => cases bare

/-- Writing a file leaves a file system as there can be. -/
theorem WellFormed.write (wellFormed : files.WellFormed)
    (done : files.write path content = .ok after) : after.WellFormed := by
  obtain ⟨location, granted, change⟩ := rewritten_of_write wellFormed done
  obtain ⟨directory, name, entries, rfl, isName, inside⟩ :=
    exists_directory_of_writeLocation wellFormed granted
  refine ⟨?_, ?_, ?_⟩
  · rw [FileSystem.write, granted] at done
    obtain rfl := Except.ok.inj done
    exact wellFormed.tree.place inside isName (.file content)
  · obtain ⟨inTop, top⟩ := wellFormed.top
    have above : [] ≠ directory ++ [name] := by simp
    obtain ⟨children, now⟩ := change.at?_directory above (Node.at?_nil.trans (congrArg some top))
    exact ⟨children, Option.some_inj.mp (Node.at?_nil.symm.trans now)⟩
  · obtain ⟨children, home⟩ := wellFormed.home
    rw [change.workingDirectory]
    refine change.at?_directory (fun same => ?_) home
    obtain ⟨old, wrong⟩ := file_of_writeLocation wellFormed granted (same ▸ home)
    cases wrong

/-! ### What has been written -/

/-- The look-up that prepared a file finds the file when it has been written, whatever it is for. -/
theorem Follows.of_rewritten (change : files.Rewritten after location content)
    (free : ∀ node, files.root.at? location = some node → ∃ old, node = .file old)
    (found : Follows files.root .create links here steps target)
    (ends : (∃ old, target = .present location (.file old)) ∨
      ∃ directory name, target = .absent directory name ∧ location = directory ++ [name]) :
    Follows after.root purpose links here steps (.present location (.file content)) := by
  -- The new look-up takes the same rules: directories and links on the way are not the file that
  -- has been written, so they stand where they stood.
  have ne_of_found {other : Location} {node : Node} (there : files.root.at? other = some node)
      (noFile : ∀ old, node ≠ .file old) : other ≠ location := by
    rintro rfl
    obtain ⟨old, rfl⟩ := free node there
    exact noFile old rfl
  induction found with
  | @arrive links here node there =>
    obtain ⟨old, same⟩ | ⟨directory, name, same, -⟩ := ends
    · obtain ⟨rfl, rfl⟩ := Target.present.inj same
      exact .arrive change.written
    · cases same
  | stay dot _ ih => exact .stay dot (ih ends)
  | up _ ih => exact .up (ih ends)
  | free names nothing =>
    obtain ⟨old, same⟩ | ⟨directory, name, same, rfl⟩ := ends
    · cases same
    · obtain ⟨rfl, rfl⟩ := Target.absent.inj same
      exact .file names.of_create change.written
  | enter names there _ ih =>
    obtain ⟨children, now⟩ := change.at?_directory (ne_of_found there (by simp)) there
    exact .enter names.of_create now (ih ends)
  | file names there =>
    obtain ⟨old, same⟩ | ⟨directory, name, same, -⟩ := ends
    · obtain ⟨rfl, -⟩ := Target.present.inj same
      exact .file names.of_create change.written
    · cases same
  | link names there _ ih =>
    have now := change.at?_link (ne_of_found there (by simp)) there
    exact .link names.of_create now (ih ends)

/-- The path of a file that has been written leads to it, whatever it is looked up for. -/
theorem target_of_write (wellFormed : files.WellFormed)
    (granted : files.writeLocation path = .ok location)
    (change : files.Rewritten after location content) :
    after.target purpose path = .ok (.present location (.file content)) := by
  obtain ⟨-, ends⟩ := writeLocation_eq_ok_iff.mp granted
  obtain ⟨target, prepared, shape⟩ : ∃ target, files.target .create path = .ok target ∧
      ((∃ old, target = .present location (.file old)) ∨
        ∃ directory name, target = .absent directory name ∧ location = directory ++ [name]) := by
    obtain ⟨old, prepared⟩ | ⟨directory, name, prepared, same⟩ := ends
    · exact ⟨_, prepared, Or.inl ⟨old, rfl⟩⟩
    · exact ⟨_, prepared, Or.inr ⟨directory, name, rfl, same⟩⟩
  obtain ⟨whole, short, named, follows⟩ := target_eq_ok_iff.mp prepared
  refine target_eq_ok_iff.mpr ⟨whole, short, named, ?_⟩
  rw [change.workingDirectory]
  exact follows.of_rewritten change (fun _ => file_of_writeLocation wellFormed granted) shape

/-- What has been written at a path is read back at that path. -/
theorem read_of_write (wellFormed : files.WellFormed)
    (done : files.write path content = .ok after) : after.read path = .ok content := by
  obtain ⟨location, granted, change⟩ := rewritten_of_write wellFormed done
  rw [read, target_of_write wellFormed granted change]

/-- Writing what has just been written changes nothing. -/
theorem write_again (wellFormed : files.WellFormed)
    (done : files.write path content = .ok after) : after.write path content = .ok after := by
  obtain ⟨location, granted, change⟩ := rewritten_of_write wellFormed done
  have unbarred : after.isBarred path = false := by
    rw [isBarred, lexical, change.workingDirectory, change.barred, ← lexical, ← isBarred]
    exact (writeLocation_eq_ok_iff.mp granted).1
  have again : after.writeLocation path = .ok location :=
    writeLocation_eq_ok_iff.mpr
      ⟨unbarred, Or.inl ⟨content, target_of_write wellFormed granted change⟩⟩
  rw [write, again]
  dsimp only
  rw [Node.place_eq_self change.written]

end CounterTrace.FileSystem
