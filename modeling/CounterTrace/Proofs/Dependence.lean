import CounterTrace.Proofs.Unambiguity

/-!
# What a script depends on

A generation takes in a file system, a search directory and an output directory, the metadata, and
the slots of all devices. Of all this only the counters of its own device and the names and marker
lines of the probed control files reach the script. Two generations that have both written, on
whatever trees and from whatever stores, have written the same bytes if they agree on these.

Along the way the rest is dropped: empty slots when the counters are enumerated, control files
without a probe when the script is rendered, and the directory, the marker indexes and all other
content of a control file where only its name and the lines of its markers are written.

## Main definitions

* `Generator.SameCounters` — two generators with the same counters
* `ControlFile.SameMarks` — two control files with the same name and the same marker lines

## Main results

* `Generator.SameCounters.counters_eq` — the counters that are enumerated are the same
* `Script.sameProbe_of_sameMarks` — the same is written in the blocks of two such control files
* `Generator.read_eq_of_generate` — the same script is written
-/

namespace CounterTrace

variable {files others after later : FileSystem} {file other : ControlFile}
  {counters : List Counter}

namespace Generator

/-- Two generators with the same address layout, for devices with the same configured counters.
Empty slots and the counters of other devices may differ. -/
structure SameCounters (generator other : Generator) : Prop where
  geometry : generator.geometry = other.geometry
  configured : (generator.store.slots generator.device).reduceOption =
    (other.store.slots other.device).reduceOption

variable {generator other : Generator}

/-- An enumeration passes over empty slots. -/
theorem SameCounters.counters_eq (same : generator.SameCounters other)
    (counted : generator.counters.result = .ok counters) :
    other.counters.result = .ok counters := by
  rw [counters_result, Counter.ofSlots_eq_ok_iff] at counted ⊢
  rw [← same.geometry, ← same.configured]
  exact counted

end Generator

/-- Two control files with the same name and the same marker lines. -/
structure ControlFile.SameMarks (file other : ControlFile) : Prop where
  baseName : file.baseName = other.baseName
  lines : file.markers.map (·.line) = other.markers.map (·.line)

/-- The names of found control files hold their identifiers. -/
theorem ControlFile.isNamed_of_mem_discover {root : Option String} {found : List ControlFile}
    (wellFormed : files.WellFormed) (known : (discover files root).result = .ok found)
    (member : file ∈ found) : file.IsNamed := by
  obtain ⟨id, isId, named⟩ := exists_id_of_mem_discover wellFormed known member
  exact ⟨id, named, isId⟩

/-- The name of a control file is not touched when it is completed. -/
theorem ControlFile.isNamed_completed_iff :
    (completed files counters file).IsNamed ↔ file.IsNamed := Iff.rfl

/-- Two control files with the same name and the same marker lines have the same block, if both have
the counters on their columns out of the same list. -/
theorem Script.sameProbe_of_sameMarks (named : file.IsNamed) (otherNamed : other.IsNamed)
    (owned : file.counters = columnEntries counters file.id)
    (otherOwned : other.counters = columnEntries counters other.id)
    (same : file.SameMarks other) : SameProbe file other := by
  have id := id_eq_of_baseName named otherNamed same.baseName
  refine sameProbe_of_id same.baseName id same.lines ?_
  rw [owned, otherOwned, id]

namespace Generator

variable {generator other : Generator}

/-- Two generations that have both written, with the same counters and with the same names and
marker lines in the probed control files, have written the same bytes. -/
theorem read_eq_of_generate (wellFormed : files.WellFormed) (othersWellFormed : others.WellFormed)
    (done : (generator.generate files).result = .ok (true, after))
    (otherDone : (other.generate others).result = .ok (true, later))
    (same : generator.SameCounters other) :
    ∃ collection second, (generator.collect files).result = .ok collection ∧
      (other.collect others).result = .ok second ∧
      (List.Forall₂ ControlFile.SameMarks (collection.files.filter (·.isProbed))
          (second.files.filter (·.isProbed)) →
        ∃ script, after.read (generator.outputPath files) = .ok script ∧
          later.read (other.outputPath others) = .ok script) := by
  obtain ⟨found, counters, discovered, counted, written⟩ := exists_write_of_generate done
  obtain ⟨seen, more, seenDiscovered, moreCounted, seenWritten⟩ :=
    exists_write_of_generate otherDone
  obtain rfl : counters = more :=
    Except.ok.inj ((same.counters_eq counted).symm.trans moreCounted)
  have collected := collect_of_discover discovered counted
  have otherCollected := collect_of_discover seenDiscovered moreCounted
  refine ⟨_, _, collected, otherCollected, fun marks => ?_⟩
  have probes : List.Forall₂ Script.SameProbe
      ((found.map (ControlFile.completed files counters)).filter (·.isProbed))
      ((seen.map (ControlFile.completed others counters)).filter (·.isProbed)) := by
    rw [List.forall₂_iff_zip] at marks ⊢
    refine ⟨marks.1, fun member => ?_⟩
    obtain ⟨inside, otherInside⟩ := List.of_mem_zip member
    obtain ⟨source, among, rfl⟩ := List.mem_map.mp (List.mem_of_mem_filter inside)
    obtain ⟨origin, otherAmong, rfl⟩ := List.mem_map.mp (List.mem_of_mem_filter otherInside)
    have named := ControlFile.isNamed_of_mem_discover wellFormed discovered among
    have otherNamed :=
      ControlFile.isNamed_of_mem_discover othersWellFormed seenDiscovered otherAmong
    exact Script.sameProbe_of_sameMarks (ControlFile.isNamed_completed_iff.mpr named)
      (ControlFile.isNamed_completed_iff.mpr otherNamed) ControlFile.counters_completed
      ControlFile.counters_completed (marks.2 member)
  refine ⟨_, FileSystem.read_of_write wellFormed written, ?_⟩
  rw [FileSystem.read_of_write othersWellFormed seenWritten,
    Script.render_congr Script.defaultDataFile rfl probes]

/-- A tree in which the listing is in a directory and marks its line in another way, with a second
listing outside. -/
def workFiles : FileSystem :=
  ⟨.directory [("work", .directory
      [("aie_runtime_control0.asm", .file (Utf8.encode "nop; save_timestamps 5\nnop".toList))]),
    ("aie_runtime_control9.asm", .file (Utf8.encode "SAVE_TIMESTAMPS".toList))], [], []⟩

/-- A generator for the same counter in another slot of another device, which searches the
directory and puts the script into it. -/
def workGenerator : Generator where
  store := ⟨[(0, [some ⟨7, 1, 3, "core"⟩]), (4, [none, some ⟨1, 2, 0, "aie"⟩])]⟩
  device := 4
  geometry := ⟨25, 20⟩
  searchDirectory := some "/work"
  outputDirectory := some "/work"

theorem admissible_workGenerator : workGenerator.Admissible workFiles where
  files := by decide
  store :=
    ⟨("\x7b\"0\": [\x7b\"column\": 7, \"row\": 1, \"counterNumber\": 3, \"module\": " ++
      "\"core\"\x7d], \"4\": [null, \x7b\"column\": 1, \"row\": 2, \"counterNumber\": 0, " ++
      "\"module\": \"aie\"\x7d]\x7d").toList, by decide +kernel⟩
  search := by
    intro path same
    cases same
    decide
  output := by
    intro path same
    cases same
    decide

theorem discover_workFiles :
    (ControlFile.discover workFiles (some "/work")).result =
      .ok [ControlFile.ofPath "/work/aie_runtime_control0.asm" 0] :=
  discover_of_single rfl rfl

/-- What the generator finds there. -/
def workCollection : Collection :=
  ⟨[⟨"/work/aie_runtime_control0.asm", 0, [⟨1, some 5⟩], [⟨1, 2, 0, "aie", 0x2231520⟩]⟩],
    [⟨1, 2, 0, "aie", 0x2231520⟩], []⟩

theorem collect_workFiles : (workGenerator.collect workFiles).result = .ok workCollection :=
  Collection.gather_result_eq_ok_iff.mpr ⟨_, _, discover_workFiles, rfl, rfl, rfl, rfl⟩

theorem suffices_workCollection : workCollection.Suffices :=
  ⟨by simp [workCollection], by simp [workCollection], _, List.mem_cons_self, by simp⟩

theorem read_eq_workFiles :
    listingFiles.WellFormed ∧ workFiles.WellFormed ∧ ∃ after later script,
      ((listingGenerator 25).generate listingFiles).result = .ok (true, after) ∧
        (workGenerator.generate workFiles).result = .ok (true, later) ∧
        after.read ((listingGenerator 25).outputPath listingFiles) = .ok script ∧
        later.read (workGenerator.outputPath workFiles) = .ok script := by
  have wellFormed := (admissible_listingGenerator 25).files
  have workWellFormed := admissible_workGenerator.files
  obtain ⟨after, done⟩ := exists_generate_of_suffices (admissible_listingGenerator 25)
    collect_listingFiles suffices_listingCollection writeLocation_listingFiles
  obtain ⟨later, workDone⟩ := exists_generate_of_suffices admissible_workGenerator
    collect_workFiles suffices_workCollection rfl
  obtain ⟨collection, second, collected, secondCollected, scripts⟩ :=
    read_eq_of_generate wellFormed workWellFormed done workDone ⟨rfl, rfl⟩
  obtain rfl := Except.ok.inj (collect_listingFiles.symm.trans collected)
  obtain rfl := Except.ok.inj (collect_workFiles.symm.trans secondCollected)
  obtain ⟨script, read, workRead⟩ :=
    scripts (List.Forall₂.cons ⟨by decide, rfl⟩ List.Forall₂.nil)
  exact ⟨wellFormed, workWellFormed, after, later, script, done, workDone, read, workRead⟩

end Generator

end CounterTrace
