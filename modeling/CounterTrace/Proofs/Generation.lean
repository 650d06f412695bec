import CounterTrace.Generator
import CounterTrace.Proofs.Counters
import CounterTrace.Proofs.Discovery
import CounterTrace.Proofs.Markers
import CounterTrace.Proofs.Writing

/-!
# What a generation writes, and when it fails

A generation and a collection look at the same things in different orders. Wherever the collection
gives a result, the generation writes its script exactly if the collection is sufficient and the
place of the script can be opened; otherwise it leaves the file system as it was. Where settings
have been accepted, nothing can fail but the address of a counter.

## Main definitions

* `ControlFile.marked` — a control file with the markers in it
* `Collection.Suffices` — a collection that gives a script
* `Generator.Admissible` — a generator whose inputs have been accepted

## Main results

* `Generator.script?_of_gather` — the script is that of the collection
* `Generator.generate_of_collect` — what a generation does, by what a collection finds
* `Generator.exists_generate_eq_error_iff` — when a generation fails on the largest machine
-/

namespace CounterTrace

variable {files after : FileSystem} {root : Option String} {found : List ControlFile}
  {counters : List Counter}

namespace ControlFile

/-- The control file with the markers in it. -/
def marked (files : FileSystem) (file : ControlFile) : ControlFile :=
  { file with markers := markersOf files file.path }

/-- Reading markers never fails. -/
theorem withMarkers_result (files : FileSystem) (found : List ControlFile) :
    (withMarkers files found).result = .ok (found.map (marked files)) := by
  -- Where a file cannot be read the report has a warning, and the file no markers.
  induction found with
  | nil => rfl
  | cons file found ih =>
    rw [withMarkers, Report.bind_result_eq_ok]
    refine ⟨markersOf files file.path, rfl, ?_⟩
    rw [Report.bind_result_eq_ok]
    exact ⟨_, ih, rfl⟩

theorem load_result_eq_ok_iff {loaded : List ControlFile} :
    (load files root).result = .ok loaded ↔
      ∃ found, (discover files root).result = .ok found ∧ loaded = found.map (marked files) := by
  rw [load, Report.bind_result_eq_ok]
  refine exists_congr fun found => and_congr_right fun _ => ?_
  rw [withMarkers_result, Except.ok.injEq, eq_comm]

/-- The numbers that follow from the identifiers of found control files can be written. -/
theorem isWritable_of_discover {file : ControlFile} (wellFormed : files.WellFormed)
    (known : (discover files root).result = .ok found) (member : file ∈ found) :
    ∀ number ∈ file.derivedNumbers, Numeral.isWritable number := by
  obtain ⟨location, name, id, -, valid, named, -, rfl⟩ :=
    exists_of_mem_discover wellFormed known member
  have small := valid.controlFileId?_lt named
  -- A name is so short that there is room for one more digit.
  have room : 10 ^ FileSystem.maxNameBytes * 10 ≤ 10 ^ Numeral.maxDigits := by
    rw [← Nat.pow_succ]
    exact Nat.pow_le_pow_right (by omega) (by decide)
  intro number among
  rw [Numeral.isWritable_iff]
  simp only [derivedNumbers, microController, lastColumn, firstColumn, columnCount, ofPath,
    List.mem_cons, List.not_mem_nil, or_false] at among
  -- The two powers are far too large to be computed.
  generalize 10 ^ FileSystem.maxNameBytes = bound at small room
  generalize 10 ^ Numeral.maxDigits = limit at room
  omega

end ControlFile

namespace Script

/-- A script for found control files and counters from accepted settings can be rendered. -/
theorem renderRead?_of_discover (dataFile : String) (wellFormed : files.WellFormed)
    (known : (ControlFile.discover files root).result = .ok found)
    (within : ∀ number ∈ counters.flatMap entryNumbers, Numeral.isWritable number) :
    renderRead? dataFile (ControlFile.assign (found.map (ControlFile.marked files)) counters)
        counters =
      .ok (render dataFile (ControlFile.assign (found.map (ControlFile.marked files)) counters)
        counters) := by
  have writable : (takenNumbers (ControlFile.assign (found.map (ControlFile.marked files)) counters)
      counters).all Numeral.isWritable := by
    rw [List.all_eq_true]
    intro number member
    rcases List.mem_append.mp member with ofCounter | ofFile
    · exact within number ofCounter
    · obtain ⟨file, among, number⟩ := List.mem_flatMap.mp ofFile
      have loaded := (List.mem_filter.mp among).1
      rw [ControlFile.assign, List.map_map] at loaded
      obtain ⟨first, member, rfl⟩ := List.mem_map.mp loaded
      exact ControlFile.isWritable_of_discover wellFormed known member _ number
  rw [renderRead?, renderWithin, if_pos writable]

end Script

/-! ### Collections -/

namespace Collection

/-- A collection that gives a script: control files, counters, and a marker in some control file,
which need not have a counter. -/
structure Suffices (collection : Collection) : Prop where
  files : collection.files ≠ []
  counters : collection.counters ≠ []
  marked : ∃ file ∈ collection.files, file.markers ≠ []

/-- The script of a collection. -/
def script (collection : Collection) : String :=
  Script.render Script.defaultDataFile collection.files collection.counters

theorem gather_result_eq_ok_iff {report : Report (List Counter)} {collection : Collection} :
    (gather files root report).result = .ok collection ↔
      ∃ found counters, (ControlFile.discover files root).result = .ok found ∧
        report.result = .ok counters ∧
        collection.files = ControlFile.assign (found.map (ControlFile.marked files)) counters ∧
        collection.counters = counters ∧
        collection.unassigned =
          ControlFile.unassigned (found.map (ControlFile.marked files)) counters := by
  rw [gather, Report.bind_result_eq_ok]
  constructor
  · rintro ⟨loaded, loading, rest⟩
    obtain ⟨found, known, rfl⟩ := ControlFile.load_result_eq_ok_iff.mp loading
    obtain ⟨counters, counted, same⟩ := Report.bind_result_eq_ok.mp rest
    obtain rfl := Except.ok.inj same
    exact ⟨found, counters, known, counted, rfl, rfl, rfl⟩
  · rintro ⟨found, counters, known, counted, same, rfl, others⟩
    refine ⟨_, ControlFile.load_result_eq_ok_iff.mpr ⟨found, known, rfl⟩, ?_⟩
    rw [Report.bind_result_eq_ok]
    refine ⟨collection.counters, counted, ?_⟩
    obtain ⟨files, counters, unassigned⟩ := collection
    dsimp only at same others ⊢
    rw [same, others]
    rfl

end Collection

namespace Generator

theorem nothing_result (reason : String) : (nothing reason).result = .ok none := rfl

/-- No control file, no script: the counters are not looked at. -/
theorem script?_of_discover_nil {report : Report (List Counter)}
    (known : (ControlFile.discover files root).result = .ok []) :
    (script? files root report).result = .ok none := by
  rw [script?, Report.bind_result_of_ok known]
  rfl

/-- With a control file, the counters fail where they do. -/
theorem script?_of_counters_error {report : Report (List Counter)} {failure : Failure}
    (known : (ControlFile.discover files root).result = .ok found) (proper : found ≠ [])
    (failed : report.result = .error failure) :
    (script? files root report).result = .error failure := by
  rw [script?, Report.bind_result_of_ok known, if_neg (by simpa using proper),
    Report.bind_result_eq_error]
  exact Or.inl failed

/-- Wherever a collection gives a result, the script is that of the collection. -/
theorem script?_of_gather {report : Report (List Counter)} {collection : Collection}
    (wellFormed : files.WellFormed)
    (known : (Collection.gather files root report).result = .ok collection)
    (within : ∀ number ∈ collection.counters.flatMap Script.entryNumbers,
      Numeral.isWritable number) :
    (collection.Suffices → (script? files root report).result = .ok (some collection.script)) ∧
      (¬ collection.Suffices → (script? files root report).result = .ok none) := by
  obtain ⟨found, counters, discovered, counted, same, rfl, -⟩ :=
    Collection.gather_result_eq_ok_iff.mp known
  have files_eq_nil : collection.files = [] ↔ found = [] := by
    rw [same, ControlFile.assign, List.map_map, List.map_eq_nil_iff]
  -- The gates in the order of the generation: control files, counters, markers.
  by_cases nothingFound : found = []
  · subst nothingFound
    exact ⟨fun enough => absurd (files_eq_nil.mpr rfl) enough.files,
      fun _ => script?_of_discover_nil discovered⟩
  rw [script?, Report.bind_result_of_ok discovered, if_neg (by simpa using nothingFound),
    Report.bind_result_of_ok counted]
  by_cases nothingCounted : collection.counters = []
  · rw [if_pos (by simpa using nothingCounted)]
    exact ⟨fun enough => absurd nothingCounted enough.counters, fun _ => rfl⟩
  rw [if_neg (by simpa using nothingCounted),
    Report.bind_result_of_ok (ControlFile.withMarkers_result files found)]
  -- The counters that a control file is given do not matter to whether it has a marker.
  have marked_iff : (∃ file ∈ collection.files, file.markers ≠ []) ↔
      ¬ (found.map (ControlFile.marked files)).all fun file => file.markers.isEmpty := by
    rw [same, ControlFile.assign]
    simp
  by_cases unmarked : (found.map (ControlFile.marked files)).all fun file => file.markers.isEmpty
  · rw [if_pos unmarked]
    exact ⟨fun enough => absurd unmarked (marked_iff.mp enough.marked), fun _ => rfl⟩
  · rw [if_neg unmarked]
    rw [Script.renderRead?_of_discover Script.defaultDataFile wellFormed discovered within, ← same]
    refine ⟨fun _ => rfl, fun short => absurd ?_ short⟩
    exact ⟨fun empty => nothingFound (files_eq_nil.mp empty), nothingCounted,
      marked_iff.mpr unmarked⟩

end Generator

/-! ### Saving -/

namespace Script

/-- The path of the script is tidy. -/
theorem tidy_outputPath (files : FileSystem) (directory : Option String) :
    (Path.ofString (outputPath files directory)).text = outputPath files directory := by
  have tidy : ((Path.ofString (directory.getD files.workingPath)).child fileName).Tidy :=
    (Path.tidy_ofString _).child ⟨by decide, by decide, by decide⟩
  rw [outputPath, Path.ofString_text tidy]

/-- The path of the script holds no null character that the path of its directory does not hold. -/
theorem null_notMem_outputPath {directory : Option String} (wellFormed : files.WellFormed)
    (whole : ∀ path, directory = some path → '\x00' ∉ path.toList) :
    '\x00' ∉ (outputPath files directory).toList := by
  have given : '\x00' ∉ (directory.getD files.workingPath).toList := by
    cases directory with
    | some path => exact whole path rfl
    | none =>
      have home : '\x00' ∉ (ControlFile.searchRoot files none).toList :=
        ControlFile.null_notMem_searchRoot wellFormed whole
      exact home
  have tidy := Path.tidy_ofString (directory.getD files.workingPath)
  refine Path.null_notMem_text (tidy.child ⟨by decide, by decide, by decide⟩) fun name member => ?_
  rw [Path.child] at member
  rcases List.mem_append.mp member with above | last
  · exact fun inside => given (Path.mem_toList_of_mem_names above inside)
  · obtain rfl : name = fileName := by simpa using last
    decide

/-- Saving a script writes it where its place can be opened, and changes nothing where not. -/
theorem save_cases {script path : String} (tidy : (Path.ofString path).text = path)
    (whole : '\x00' ∉ path.toList) :
    (∃ after, files.write path (Utf8.encode script.toList) = .ok after ∧
        (save files script path).result = .ok (true, after)) ∨
      (∀ location, files.writeLocation path ≠ .ok location) ∧
        (save files script path).result = .ok (false, files) := by
  rw [save, tidy, FileSystem.write]
  -- Writing fails only where the place cannot be opened; the path is not rejected, as it is whole.
  rcases opened : files.writeLocation path with (_ | ⟨reason, shown⟩) | location
  · exact absurd opened (FileSystem.writeLocation_ne_nullCharacter whole)
  · exact Or.inr ⟨by simp, rfl⟩
  · exact Or.inl ⟨_, rfl, rfl⟩

end Script

/-! ### Generations -/

namespace Generator

/-- The inputs of a generator as they reach it: a file system as there can be, counters from
accepted settings, and directories whose paths hold no null character. -/
structure Admissible [Numeral.SignRule] (generator : Generator) (files : FileSystem) : Prop where
  files : files.WellFormed
  store : ∃ text, CounterStore.ofText text = .ok generator.store
  search : ∀ path, generator.searchDirectory = some path → '\x00' ∉ path.toList
  output : ∀ path, generator.outputDirectory = some path → '\x00' ∉ path.toList

variable {generator : Generator} {collection : Collection} {failure : Failure}

theorem counters_result (generator : Generator) :
    generator.counters.result =
      Counter.ofSlots generator.geometry (generator.store.slots generator.device) :=
  Counter.enumerate_result _ _ _

/-- The counters of accepted settings have numbers that can be written. -/
theorem Admissible.isWritable [Numeral.SignRule] (admissible : generator.Admissible files)
    (known : generator.counters.result = .ok counters) :
    ∀ number ∈ counters.flatMap Script.entryNumbers, Numeral.isWritable number := by
  obtain ⟨text, accepted⟩ := admissible.store
  rw [counters_result] at known
  exact Counter.isWritable_of_ofSlots (CounterStore.within_of_ofText accepted).slotsWithin known

theorem Admissible.exists_discover_eq_ok [Numeral.SignRule]
    (admissible : generator.Admissible files) :
    ∃ found, (ControlFile.discover files generator.searchDirectory).result = .ok found :=
  ControlFile.exists_discover_eq_ok admissible.files admissible.search

/-- Without a script nothing changes. -/
theorem generate_of_script?_none
    (known : (script? files generator.searchDirectory generator.counters).result = .ok none) :
    (generator.generate files).result = .ok (false, files) := by
  rw [generate, Report.bind_result_of_ok known]
  rfl

/-- A script is written where its place can be opened; otherwise nothing changes. -/
theorem generate_of_script?_some {text : String} [Numeral.SignRule]
    (admissible : generator.Admissible files)
    (known : (script? files generator.searchDirectory generator.counters).result =
      .ok (some text)) :
    (∃ after, files.write (generator.outputPath files) (Utf8.encode text.toList) = .ok after ∧
        (generator.generate files).result = .ok (true, after)) ∨
      (∀ location, files.writeLocation (generator.outputPath files) ≠ .ok location) ∧
        (generator.generate files).result = .ok (false, files) := by
  rw [generate, Report.bind_result_of_ok known]
  exact Script.save_cases (Script.tidy_outputPath _ _)
    (Script.null_notMem_outputPath admissible.files admissible.output)

theorem collect_result_eq_error_iff [Numeral.SignRule] (admissible : generator.Admissible files) :
    (generator.collect files).result = .error failure ↔
      generator.counters.result = .error failure := by
  obtain ⟨found, known⟩ := admissible.exists_discover_eq_ok
  have loaded := ControlFile.load_result_eq_ok_iff.mpr ⟨found, known, rfl⟩
  rw [collect, Collection.gather, Report.bind_result_of_ok loaded, Report.bind_result_eq_error]
  simp

/-- Where a collection fails, a generation that has found a control file fails in the same way, and
any other writes nothing. -/
theorem generate_of_collect_error [Numeral.SignRule] (admissible : generator.Admissible files)
    (failed : (generator.collect files).result = .error failure) :
    ∃ found, (ControlFile.discover files generator.searchDirectory).result = .ok found ∧
      (found = [] ∧ (generator.generate files).result = .ok (false, files) ∨
        found ≠ [] ∧ (generator.generate files).result = .error failure) := by
  obtain ⟨found, known⟩ := admissible.exists_discover_eq_ok
  refine ⟨found, known, ?_⟩
  by_cases nothingFound : found = []
  · subst nothingFound
    exact Or.inl ⟨rfl, generate_of_script?_none (script?_of_discover_nil known)⟩
  · refine Or.inr ⟨nothingFound, ?_⟩
    rw [generate, Report.bind_result_eq_error]
    exact Or.inl (script?_of_counters_error known nothingFound
      ((collect_result_eq_error_iff admissible).mp failed))

/-- Where a collection gives a result, a generation does too. -/
theorem generate_of_collect_ok [Numeral.SignRule] (admissible : generator.Admissible files)
    (known : (generator.collect files).result = .ok collection) :
    (collection.Suffices ∧ ∃ after,
        files.write (generator.outputPath files) (Utf8.encode collection.script.toList) =
          .ok after ∧
        (generator.generate files).result = .ok (true, after)) ∨
      ¬ (collection.Suffices ∧ ∃ location,
          files.writeLocation (generator.outputPath files) = .ok location) ∧
        (generator.generate files).result = .ok (false, files) := by
  obtain ⟨found, counters, -, counted, -, rfl, -⟩ := Collection.gather_result_eq_ok_iff.mp known
  obtain ⟨enough, short⟩ := script?_of_gather admissible.files known (admissible.isWritable counted)
  by_cases sufficient : collection.Suffices
  · rcases generate_of_script?_some admissible (enough sufficient) with written | ⟨closed, kept⟩
    · exact Or.inl ⟨sufficient, written⟩
    · exact Or.inr ⟨fun both => both.2.elim closed, kept⟩
  · exact Or.inr ⟨fun both => sufficient both.1, generate_of_script?_none (short sufficient)⟩

/-- A generation writes where there is enough for a script and its place can be opened. -/
theorem exists_generate_of_suffices {location : List String}
    [Numeral.SignRule] (admissible : generator.Admissible files)
    (known : (generator.collect files).result = .ok collection) (sufficient : collection.Suffices)
    (opened : files.writeLocation (generator.outputPath files) = .ok location) :
    ∃ after, (generator.generate files).result = .ok (true, after) := by
  rcases generate_of_collect_ok admissible known with ⟨-, after, -, done⟩ | ⟨short, -⟩
  · exact ⟨after, done⟩
  · exact absurd ⟨sufficient, location, opened⟩ short

/-- A working directory with one listing, in which there is a marker. -/
def listingFiles : FileSystem :=
  ⟨.directory [("aie_runtime_control0.asm", .file (Utf8.encode "SAVE_TIMESTAMPS".toList))], [], []⟩

/-- A generator for one counter, on the columns of that listing. -/
def listingGenerator (columnShift : Int) : Generator where
  store := ⟨[(0, [some ⟨1, 2, 0, "aie"⟩])]⟩
  device := 0
  geometry := ⟨columnShift, 20⟩
  searchDirectory := none
  outputDirectory := none

/-- What that generator finds there. -/
def listingCollection : Collection :=
  ⟨[⟨"/aie_runtime_control0.asm", 0, [⟨1, none⟩], [⟨1, 2, 0, "aie", 0x2231520⟩]⟩],
    [⟨1, 2, 0, "aie", 0x2231520⟩], []⟩

theorem admissible_listingGenerator (columnShift : Int) :
    (listingGenerator columnShift).Admissible listingFiles where
  files := by decide
  store :=
    ⟨("\x7b\"0\": [\x7b\"column\": 1, \"row\": 2, \"counterNumber\": 0, \"module\": \"aie\"\x7d]" ++
      "\x7d").toList, rfl⟩
  search := by simp [listingGenerator]
  output := by simp [listingGenerator]

/-- A directory that holds one file only is searched by testing that file. -/
theorem discover_of_single {name : String} {content : List UInt8} {file : ControlFile}
    (listed : files.list (ControlFile.searchRoot files root) = .ok [(name, .file content)])
    (met : Visit.ofEntry files (ControlFile.searchRoot files root) name = [.found file]) :
    (ControlFile.discover files root).result = .ok [file] := by
  have visits : ControlFile.searchVisits files (ControlFile.searchRoot files root) =
      [.found file] := by
    rw [ControlFile.searchVisits, listed]
    simp [Node.visits, Node.isDirectory, subVisits, sortByName, met]
  rw [ControlFile.discover, visits, Visit.gather]
  simp [Visit.gather, Report.tell]

theorem discover_listingFiles :
    (ControlFile.discover listingFiles none).result =
      .ok [ControlFile.ofPath "/aie_runtime_control0.asm" 0] :=
  discover_of_single rfl rfl

theorem collect_listingFiles :
    ((listingGenerator 25).collect listingFiles).result = .ok listingCollection :=
  Collection.gather_result_eq_ok_iff.mpr ⟨_, _, discover_listingFiles, rfl, rfl, rfl, rfl⟩

theorem suffices_listingCollection : listingCollection.Suffices :=
  ⟨by simp [listingCollection], by simp [listingCollection], _, List.mem_cons_self, by simp⟩

theorem writeLocation_listingFiles :
    listingFiles.writeLocation ((listingGenerator 25).outputPath listingFiles) =
      .ok ["aie_profile.ct"] := rfl

/-- What a generation does, by what a collection finds. With shifts that are not negative, a
collection gives a result unless a counter is on a tile whose address is too large. Then a
generation says whether it has written: it has, exactly if there are control files, counters and a
marker, and the place of the script can be opened. What is written is the script of the collection,
to the byte, and nothing else changes; if nothing is written nothing changes at all. -/
theorem generate_of_collect [Numeral.SignRule] (admissible : generator.Admissible files)
    (columnShift : 0 ≤ generator.geometry.columnShift)
    (rowShift : 0 ≤ generator.geometry.rowShift) :
    (∀ collection, (generator.collect files).result = .ok collection →
      ∃ written after, (generator.generate files).result = .ok (written, after) ∧
        (written = true ↔ collection.Suffices ∧
          ∃ location, files.writeLocation (generator.outputPath files) = .ok location) ∧
        (written = true →
          after.read (generator.outputPath files) = .ok (Utf8.encode collection.script.toList) ∧
            ∃ location, files.writeLocation (generator.outputPath files) = .ok location ∧
              files.Rewritten after location (Utf8.encode collection.script.toList)) ∧
        (written = false → after = files)) ∧
      ∀ failure, (generator.collect files).result = .error failure →
        (failure = .numberTooWide ∨ failure = .outOfMemory) ∧
        (∃ configured, some configured ∈ generator.store.slots generator.device ∧
          ¬ generator.geometry.HasTile configured.column configured.row) ∧
        ((ControlFile.discover files generator.searchDirectory).result = .ok [] ∧
            (generator.generate files).result = .ok (false, files) ∨
          (generator.generate files).result = .error failure) := by
  constructor
  · intro collection known
    rcases generate_of_collect_ok admissible known with
      ⟨sufficient, after, written, result⟩ | ⟨missing, result⟩
    · obtain ⟨location, opened, rewritten⟩ :=
        FileSystem.rewritten_of_write admissible.files written
      have read := FileSystem.read_of_write admissible.files written
      exact ⟨true, after, result, ⟨fun _ => ⟨sufficient, location, opened⟩, fun _ => rfl⟩,
        fun _ => ⟨read, location, opened, rewritten⟩, fun wrong => by cases wrong⟩
    · exact ⟨false, files, result, ⟨fun wrong => (by cases wrong), fun both => absurd both missing⟩,
        fun wrong => (by cases wrong), fun _ => rfl⟩
  · intro failure failed
    have counted := (collect_result_eq_error_iff admissible).mp failed
    rw [counters_result] at counted
    refine ⟨?_, Counter.exists_ofSlots_eq_error_iff.mp ⟨failure, counted⟩, ?_⟩
    -- With shifts that are not negative only the size of a coordinate is left as a reason.
    · obtain ⟨configured, -, tileless⟩ := Counter.ofSlots_eq_error counted
      rcases Geometry.tileAddress_eq_error (Counter.ofConfigured_eq_error_iff.mp tileless) with
        ⟨-, negative | negative⟩ | large
      · exact absurd negative (Int.not_lt.mpr columnShift)
      · exact absurd negative (Int.not_lt.mpr rowShift)
      · exact large
    · obtain ⟨found, known, ⟨rfl, result⟩ | ⟨-, result⟩⟩ :=
        generate_of_collect_error admissible failed
      · exact Or.inl ⟨known, result⟩
      · exact Or.inr result

theorem generate_listingFiles :
    (listingGenerator 25).Admissible listingFiles ∧
      (0 ≤ (listingGenerator 25).geometry.columnShift) ∧
      (0 ≤ (listingGenerator 25).geometry.rowShift) ∧
      ∃ after, ((listingGenerator 25).generate listingFiles).result = .ok (true, after) := by
  have columnShift : 0 ≤ (listingGenerator 25).geometry.columnShift := by decide
  have rowShift : 0 ≤ (listingGenerator 25).geometry.rowShift := by decide
  refine ⟨admissible_listingGenerator 25, columnShift, rowShift, ?_⟩
  obtain ⟨written, after, result, written_iff, -⟩ :=
    (generate_of_collect (admissible_listingGenerator 25) columnShift rowShift).1 _
      collect_listingFiles
  have done : written = true :=
    written_iff.mpr ⟨suffices_listingCollection, _, writeLocation_listingFiles⟩
  exact ⟨after, done ▸ result⟩

/-- A generation from accepted inputs fails if there is a control file, and a counter of the device
is on a tile without an address: a shift is negative, or a coordinate is too large where its shift
puts it. On the largest machine these are all failures; one with less memory fails at more tiles. -/
theorem exists_generate_eq_error_iff [Numeral.SignRule] (admissible : generator.Admissible files) :
    ((∃ failure, (generator.generate files).result = .error failure) ↔
      (∃ found, (ControlFile.discover files generator.searchDirectory).result = .ok found ∧
        found ≠ []) ∧
      ∃ configured, some configured ∈ generator.store.slots generator.device ∧
        ¬ generator.geometry.HasTile configured.column configured.row) ∧
    ∀ failure, (generator.generate files).result = .error failure →
      failure = .negativeShift ∧
          (generator.geometry.columnShift < 0 ∨ generator.geometry.rowShift < 0) ∨
        failure = .numberTooWide ∨ failure = .outOfMemory := by
  -- A failure of the generation is a failure of the collection, behind at least one control file.
  have fails : ∀ failure, (generator.generate files).result = .error failure →
      (∃ found, (ControlFile.discover files generator.searchDirectory).result = .ok found ∧
        found ≠ []) ∧ generator.counters.result = .error failure := by
    intro failure failed
    cases collected : (generator.collect files).result with
    | ok collection =>
      rcases generate_of_collect_ok admissible collected with ⟨-, after, -, result⟩ | ⟨-, result⟩
      · cases failed.symm.trans result
      · cases failed.symm.trans result
    | error reason =>
      obtain ⟨found, known, ⟨-, result⟩ | ⟨proper, result⟩⟩ :=
        generate_of_collect_error admissible collected
      · cases failed.symm.trans result
      · obtain rfl : failure = reason := Except.error.inj (failed.symm.trans result)
        exact ⟨⟨found, known, proper⟩, (collect_result_eq_error_iff admissible).mp collected⟩
  refine ⟨⟨?_, ?_⟩, ?_⟩
  · rintro ⟨failure, failed⟩
    obtain ⟨discovered, counted⟩ := fails failure failed
    rw [counters_result] at counted
    exact ⟨discovered, Counter.exists_ofSlots_eq_error_iff.mp ⟨failure, counted⟩⟩
  · rintro ⟨⟨found, known, proper⟩, tileless⟩
    obtain ⟨failure, counted⟩ := Counter.exists_ofSlots_eq_error_iff.mpr tileless
    rw [← counters_result, ← collect_result_eq_error_iff admissible] at counted
    obtain ⟨others, again, ⟨rfl, -⟩ | ⟨-, result⟩⟩ := generate_of_collect_error admissible counted
    · exact absurd (Except.ok.inj (known.symm.trans again)) proper
    · exact ⟨failure, result⟩
  · intro failure failed
    obtain ⟨-, counted⟩ := fails failure failed
    rw [counters_result] at counted
    obtain ⟨configured, -, tileless⟩ := Counter.ofSlots_eq_error counted
    exact Geometry.tileAddress_eq_error (Counter.ofConfigured_eq_error_iff.mp tileless)

theorem generate_negativeShift :
    (listingGenerator (-1)).Admissible listingFiles ∧
      ∃ failure, ((listingGenerator (-1)).generate listingFiles).result = .error failure := by
  obtain ⟨fails, -⟩ := exists_generate_eq_error_iff (admissible_listingGenerator (-1))
  have tileless : ¬ (listingGenerator (-1)).geometry.HasTile 1 2 := fun tile =>
    absurd tile.column.nonneg (by decide)
  exact ⟨admissible_listingGenerator (-1), fails.mpr ⟨⟨_, discover_listingFiles, by simp⟩,
    ⟨1, 2, 0, "aie"⟩, by decide, tileless⟩⟩

end Generator

end CounterTrace
