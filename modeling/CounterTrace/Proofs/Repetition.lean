import CounterTrace.Proofs.Probes
import CounterTrace.Proofs.SearchCongruence

/-!
# Generating again

A generation that has written its script has changed the file system that the next one searches: the
script may lie below the root of the search, and links may lead to it that led nowhere before. As
long as no name of a control file below the root is that of the script, or leads to it, the next
generation finds and reads the same files, renders the same text and writes it to the same place. So
it says the same, and leaves the file system as the first has left it.

## Main definitions

* `ControlFile.NamedBelow` — the paths that a search can take for control files
* `ControlFile.ApartFrom` — none of them is the file at a place

## Main results

* `ControlFile.discover_rewritten` — a search after a file has been written
* `Generator.script?_rewritten` — the script after a file has been written
* `Generator.generate_again` — a generation repeated
-/

namespace CounterTrace

variable {files others after : FileSystem} {root : Option String} {path : String}
  {script place : Location} {content : List UInt8} {entries : List (String × Node)}
  {found : List ControlFile} {file : ControlFile}

/-- Where a file has been written, everything else is as it was. -/
theorem FileSystem.Rewritten.equalBut (wellFormed : files.WellFormed)
    (granted : files.writeLocation path = .ok script)
    (change : files.Rewritten after script content) :
    FileSystem.EqualBut (· = script) files after where
  trees :=
    { elsewhere := change.elsewhere
      before := fun _ _ same there =>
        FileSystem.file_of_writeLocation wellFormed granted (same ▸ there)
      after := fun _ same => ⟨content, same ▸ change.written⟩ }
  workingDirectory := change.workingDirectory
  barred := change.barred

namespace ControlFile

/-! ### What a search can take for a control file -/

/-- A name of a control file in a directory below the root of a search that is reached through real
directories: the place at which the name stands, and the path by which a search tests it. -/
inductive NamedBelow (files : FileSystem) (root : Option String) : Location → String → Prop
  | intro {place location : Location} {entries children : List (String × Node)} {name : String}
    {id : Nat}
    (start : files.target .find (searchRoot files root) = .ok (.present place (.directory entries)))
    (reached : files.root.at? (place ++ location) = some (.directory children))
    (listed : name ∈ children.map (·.1)) (named : controlFileId? name = .ok (some id)) :
    NamedBelow files root (place ++ location ++ [name])
      (candidatePath (searchPath files root) (location, name))

theorem NamedBelow.exists_start (below : NamedBelow files root place path) :
    ∃ top entries,
      files.target .find (searchRoot files root) = .ok (.present top (.directory entries)) := by
  obtain ⟨start, -, -, -⟩ := below
  exact ⟨_, _, start⟩

/-- No name of a control file below the root of a search is that of the file at a place, and none
leads there. Both are asked, because a path that is too long to be followed leads nowhere, though it
ends in the name of a file. -/
def ApartFrom (files : FileSystem) (root : Option String) (script : Location) : Prop :=
  ∀ standing path, NamedBelow files root standing path →
    standing ≠ script ∧ ∀ node, files.target .find path ≠ .ok (.present script node)

/-- What is found is found by a name of a control file below the root. -/
theorem exists_namedBelow_of_mem_discover (wellFormed : files.WellFormed)
    (known : (discover files root).result = .ok found) (member : file ∈ found) :
    ∃ standing, NamedBelow files root standing file.path := by
  obtain ⟨entries, ⟨location, name⟩, listed, candidate, made⟩ :=
    exists_candidate_of_mem_discover wellFormed known member
  obtain ⟨id, named, -, rfl⟩ := ofCandidate_eq_some_iff.mp made
  obtain ⟨-, place, start⟩ := FileSystem.list_eq_ok_iff.mp listed
  obtain ⟨children, node, reached, inside, -⟩ :=
    (Node.mem_candidates (FileSystem.wellFormed_of_list wellFormed listed)).mp candidate
  have there : files.root.at? (place ++ location) = some (.directory children) := by
    rw [Node.at?_append_of_at? (FileSystem.at?_of_target start), reached]
  exact ⟨_, .intro start there (List.mem_map.mpr ⟨_, inside, rfl⟩) named⟩

/-- What is found leads to a file. -/
theorem leadsToFile_of_mem_discover (wellFormed : files.WellFormed)
    (known : (discover files root).result = .ok found) (member : file ∈ found) :
    files.LeadsToFile file.path := by
  obtain ⟨location, name, id, -, -, -, leads, rfl⟩ :=
    exists_of_mem_discover wellFormed known member
  exact leads

/-! ### Searching and reading after a file has been written -/

/-- A search does not notice that a file has been written, if no control file is that file. -/
theorem discover_rewritten (wellFormed : files.WellFormed) (afterWellFormed : after.WellFormed)
    (equal : FileSystem.EqualBut (· = script) files after)
    (start : files.target .find (searchRoot files root) = .ok (.present place (.directory entries)))
    (apart : ApartFrom after root script) : discover after root = discover files root := by
  refine discover_congr wellFormed afterWellFormed equal start ?_
  intro location children name node id reached inside leaf named
  obtain ⟨otherEntries, otherStart⟩ := equal.target_directory start
  have below : NamedBelow after root (place ++ location ++ [name])
      (candidatePath (searchPath files root) (location, name)) := by
    rw [← searchRoot_congr equal] at otherStart
    rw [← searchPath_congr equal]
    exact .intro otherStart reached (List.mem_map.mpr ⟨_, inside, rfl⟩) named
  obtain ⟨elsewhere, leads⟩ := apart _ _ below
  exact ⟨elsewhere, fun there last same => same ▸ leads last⟩

/-- Reading the markers depends on nothing but the contents of the control files. -/
theorem withMarkers_congr
    (same : ∀ file ∈ found, others.readPermitted file.path = files.readPermitted file.path) :
    withMarkers others found = withMarkers files found := by
  induction found with
  | nil => rfl
  | cons file found ih =>
    rw [List.forall_mem_cons] at same
    rw [withMarkers, withMarkers, ih same.2, readMarkers, readMarkers, markersAt, markersAt, same.1]

end ControlFile

/-! ### Generating after the script has been written -/

/-- A script that is saved again is saved with the same message. -/
theorem Script.save_again {text : String} (wellFormed : files.WellFormed)
    (saved : (save files text path).result = .ok (true, after)) :
    save after text path = save files text path := by
  have written := write_of_save saved
  have again := FileSystem.write_again wellFormed written
  simp only [save, written, again]

namespace Generator

variable {generator : Generator} {report : Report (List Counter)} {text : String}

/-- The script does not change when a file has been written, if no control file is that file. -/
theorem script?_rewritten (wellFormed : files.WellFormed) (afterWellFormed : after.WellFormed)
    (equal : FileSystem.EqualBut (· = script) files after)
    (known : (script? files root report).result = .ok (some text))
    (apart : ControlFile.ApartFrom after root script) :
    script? after root report = script? files root report := by
  obtain ⟨found, discovered, -⟩ := Report.bind_result_eq_ok.mp known
  -- There is a control file, and so there is a directory in which the search starts.
  obtain ⟨file, member⟩ : ∃ file, file ∈ found := by
    refine List.exists_mem_of_ne_nil _ ?_
    rintro rfl
    cases known.symm.trans (script?_of_discover_nil discovered)
  obtain ⟨standing, below⟩ :=
    ControlFile.exists_namedBelow_of_mem_discover wellFormed discovered member
  obtain ⟨place, entries, start⟩ := below.exists_start
  have same := ControlFile.discover_rewritten wellFormed afterWellFormed equal start apart
  unfold script?
  rw [same]
  refine Report.bind_congr fun all discovered => ?_
  have read : ∀ file ∈ all, after.readPermitted file.path = files.readPermitted file.path := by
    intro file member
    obtain ⟨standing, below⟩ := ControlFile.exists_namedBelow_of_mem_discover afterWellFormed
      ((congrArg Report.result same).trans discovered) member
    refine equal.readPermitted_eq
      (ControlFile.leadsToFile_of_mem_discover wellFormed discovered member) ?_
    exact fun there other changed => changed ▸ (apart standing file.path below).2 other
  rw [ControlFile.withMarkers_congr read]

/-- A generation that has written can be repeated: as long as no name of a control file below the
root is that of the script or leads to it, the next generation writes again, emits the same messages
in the same order, and leaves the file system as it is. -/
theorem generate_again (wellFormed : files.WellFormed)
    (done : (generator.generate files).result = .ok (true, after))
    (opened : files.writeLocation (generator.outputPath files) = .ok script)
    (apart : ControlFile.ApartFrom after generator.searchDirectory script) :
    generator.generate after = ⟨(generator.generate files).messages, .ok (true, after)⟩ := by
  obtain ⟨outcome, known, saved⟩ := Report.bind_result_eq_ok.mp done
  cases outcome with
  | none => simp [save] at saved
  | some text =>
    have written := Script.write_of_save saved
    rw [outputPath, Script.tidy_outputPath, ← outputPath] at written
    obtain ⟨location, granted, change⟩ := FileSystem.rewritten_of_write wellFormed written
    obtain rfl : location = script := Except.ok.inj (granted.symm.trans opened)
    have equal := change.equalBut wellFormed granted
    have samePath : generator.outputPath after = generator.outputPath files := by
      rw [outputPath, outputPath, Script.outputPath, Script.outputPath, FileSystem.workingPath,
        FileSystem.workingPath, equal.workingDirectory]
    have again : generator.generate after = generator.generate files := by
      rw [generate, generate, samePath,
        script?_rewritten wellFormed (wellFormed.write written) equal known apart]
      refine Report.bind_congr fun outcome shown => ?_
      obtain rfl : some text = outcome := Except.ok.inj (known.symm.trans shown)
      exact Script.save_again wellFormed saved
    rw [again, ← done]

/-- The working directory of the listing with a script beside it. -/
private def writtenFiles (content : List UInt8) : FileSystem :=
  ⟨.directory [("aie_runtime_control0.asm", .file (Utf8.encode "SAVE_TIMESTAMPS".toList)),
    ("aie_profile.ct", .file content)], [], []⟩

private theorem apartFrom_writtenFiles (content : List UInt8) :
    ControlFile.ApartFrom (writtenFiles content) none ["aie_profile.ct"] := by
  rintro standing path ⟨start, reached, listed, named⟩
  rename_i place location entries children name id
  have top : ControlFile.searchRoot (writtenFiles content) none = "/" := rfl
  have here : (writtenFiles content).target .find "/" =
      .ok (.present [] (writtenFiles content).root) := rfl
  rw [top, here] at start
  obtain ⟨rfl, -⟩ := Target.present.inj (Except.ok.inj start)
  -- There is no directory but the root.
  cases location with
  | nil =>
    obtain rfl := Node.directory.inj (Option.some_inj.mp reached)
    simp only [List.map_cons, List.map_nil, List.mem_cons, List.not_mem_nil, or_false] at listed
    rcases listed with rfl | rfl
    · have tested : ControlFile.candidatePath (ControlFile.searchPath (writtenFiles content) none)
          ([], "aie_runtime_control0.asm") = "/aie_runtime_control0.asm" := rfl
      have leads : (writtenFiles content).target .find "/aie_runtime_control0.asm" =
          .ok (.present ["aie_runtime_control0.asm"]
            (.file (Utf8.encode "SAVE_TIMESTAMPS".toList))) := rfl
      refine ⟨by decide, fun node wrong => ?_⟩
      rw [tested, leads] at wrong
      exact absurd (Target.present.inj (Except.ok.inj wrong)).1 (by decide)
    · cases named
  | cons first rest =>
    have inside : (writtenFiles content).root.at? (first :: rest) = some (.directory children) :=
      reached
    rw [writtenFiles, Node.at?_cons, Option.bind_eq_some_iff] at inside
    obtain ⟨node, entry, inside⟩ := inside
    have member := Node.mem_of_lookup entry
    simp only [List.mem_cons, Prod.mk.injEq, List.not_mem_nil, or_false] at member
    rcases member with ⟨-, rfl⟩ | ⟨-, rfl⟩ <;> cases rest <;> cases inside

theorem generate_again_listingFiles :
    listingFiles.WellFormed ∧ ∃ after,
      ((listingGenerator 25).generate listingFiles).result = .ok (true, after) ∧
      listingFiles.writeLocation ((listingGenerator 25).outputPath listingFiles) =
        .ok ["aie_profile.ct"] ∧
      ControlFile.ApartFrom after none ["aie_profile.ct"] ∧
      (listingGenerator 25).generate after =
        ⟨((listingGenerator 25).generate listingFiles).messages, .ok (true, after)⟩ := by
  have wellFormed := (admissible_listingGenerator 25).files
  rcases generate_of_collect_ok (admissible_listingGenerator 25) collect_listingFiles with
    ⟨-, after, written, done⟩ | ⟨short, -⟩
  · rw [FileSystem.write, writeLocation_listingFiles] at written
    have shape : writtenFiles (Utf8.encode listingCollection.script.toList) = after :=
      Except.ok.inj written
    have apart : ControlFile.ApartFrom after none ["aie_profile.ct"] :=
      shape ▸ apartFrom_writtenFiles _
    exact ⟨wellFormed, after, done, writeLocation_listingFiles, apart,
      generate_again wellFormed done writeLocation_listingFiles apart⟩
  · exact absurd ⟨suffices_listingCollection, _, writeLocation_listingFiles⟩ short

end Generator

end CounterTrace
