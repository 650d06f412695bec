import Mathlib.Data.List.Forall2
import CounterTrace.Proofs.Generation
import CounterTrace.Proofs.RawMarkers

/-!
# The messages of a generation

A generation tells what it does in an order that is always the same. First comes what the search
meets, in the order of the walk; then the number of counters; then one message for each control file
in the order of identifier and path; and at the end what has become of the script. A generation that
stops early says so in its last message, and leaves out all that would follow.

## Main definitions

* `ControlFile.Walks` — what a search meets up to its first obstacle
* `ControlFile.Reads` — the one message about the markers of a control file
* `Generator.Continues` — what follows a search, by how far the generation comes

## Main results

* `ControlFile.gather_report` — what a search tells of its walk
* `ControlFile.reads_markersMessage` — what is told of the markers of a control file
* `Generator.messages_of_generate` — what a generation tells
-/

namespace CounterTrace

variable {files after : FileSystem} {root : Option String} {found walk : List ControlFile}
  {file : ControlFile} {obstacle : Option AccessError} {visits : List Visit} {path : String}

theorem Report.bind_assoc {α β γ : Type} (first : Report α) (next : α → Report β)
    (last : β → Report γ) : first >>= next >>= last = first >>= fun a => next a >>= last := by
  obtain ⟨messages, failure | a⟩ := first
  · rfl
  · rw [Report.bind_ok, Report.bind_ok]
    rcases next a with ⟨more, failure | b⟩
    · rfl
    · rw [Report.bind_ok, Report.bind_ok, List.append_assoc]

/-- A report in two parts that gives a result has the messages of both. -/
theorem Report.messages_of_bind {α β : Type} {first : Report α} {next : α → Report β} {b : β}
    (known : (first >>= next).result = .ok b) :
    ∃ a, first.result = .ok a ∧ (next a).result = .ok b ∧
      (first >>= next).messages = first.messages ++ (next a).messages := by
  obtain ⟨messages, failure | a⟩ := first
  · cases known
  · exact ⟨a, rfl, known, rfl⟩

/-! ### What a search tells -/

namespace Visit

theorem mem_of_mem_upToFault {visit : Visit} (member : visit ∈ upToFault visits) :
    visit ∈ visits := by
  induction visits with
  | nil => exact member
  | cons first visits ih =>
    cases first with
    | found file =>
      rcases List.mem_cons.mp member with same | later
      · exact List.mem_cons.mpr (Or.inl same)
      · exact List.mem_cons_of_mem _ (ih later)
    | refused error => exact List.mem_cons.mpr (Or.inl (List.mem_singleton.mp member))
    | failed failure => exact List.mem_cons.mpr (Or.inl (List.mem_singleton.mp member))

/-- What is met as a control file leads to a file. -/
theorem isFile_of_mem_ofEntry {directory entry : String}
    (member : .found file ∈ ofEntry files directory entry) : files.isFile file.path = .ok true := by
  rw [ofEntry] at member
  split at member
  · simp at member
  · simp at member
  · dsimp only at member
    split at member
    · rename_i leads
      obtain rfl := Visit.found.inj (List.mem_singleton.mp member)
      exact leads
    · simp at member
    · simp at member

theorem isFile_of_mem_ofReached {reached : Location × List (String × Node)}
    (member : .found file ∈ ofReached files path reached) : files.isFile file.path = .ok true := by
  rw [ofReached] at member
  split at member
  · simp at member
  · obtain ⟨entry, -, inside⟩ := List.mem_flatMap.mp member
    exact isFile_of_mem_ofEntry inside

end Visit

namespace ControlFile

/-- A search that starts at a path meets control files in the order of its walk and then, if it is
ended by one, an obstacle. -/
def Walks (files : FileSystem) (top : String) (walk : List ControlFile)
    (obstacle : Option AccessError) : Prop :=
  Visit.upToFault (searchVisits files top) =
    walk.map Visit.found ++ obstacle.toList.map Visit.refused

/-- What is met on a walk leads to a file. -/
theorem Walks.isFile (walks : Walks files path walk obstacle) (member : file ∈ walk) :
    files.isFile file.path = .ok true := by
  have met : .found file ∈ Visit.upToFault (searchVisits files path) := by
    rw [walks]
    exact List.mem_append_left _ (List.mem_map_of_mem member)
  rw [searchVisits] at met
  split at met
  · rename_i entries listed
    rw [Visit.upToFault_visits] at met
    obtain ⟨reached, -, inside⟩ := List.mem_flatMap.mp (Visit.mem_of_mem_upToFault met)
    exact Visit.isFile_of_mem_ofReached inside
  · simp [Visit.upToFault] at met
  · simp [Visit.upToFault] at met

/-- What is gathered are the control files before the first obstacle. Each has a message, and the
obstacle a warning. -/
theorem gather_report (known : (Visit.gather visits).result = .ok walk) :
    ∃ obstacle : Option AccessError,
      Visit.upToFault visits = walk.map Visit.found ++ obstacle.toList.map Visit.refused ∧
        Visit.gather visits =
          ⟨walk.map foundMessage ++ obstacle.toList.map blockedMessage, .ok walk⟩ := by
  induction visits generalizing walk with
  | nil =>
    obtain rfl : [] = walk := Except.ok.inj known
    exact ⟨none, rfl, rfl⟩
  | cons visit visits ih =>
    cases visit with
    | found file =>
      rw [Visit.gather, Report.bind_result_eq_ok] at known
      obtain ⟨-, -, known⟩ := known
      rw [Report.bind_result_eq_ok] at known
      obtain ⟨more, gathered, same⟩ := known
      obtain rfl : file :: more = walk := Except.ok.inj same
      obtain ⟨obstacle, met, report⟩ := ih gathered
      refine ⟨obstacle, congrArg (Visit.found file :: ·) met, ?_⟩
      have one := gather_found_append [file] visits
      rw [report] at one
      exact one
    | refused error =>
      have same := gather_found_refused [] error visits
      rw [List.map_nil, List.nil_append] at same
      rw [same] at known
      obtain rfl : [] = walk := Except.ok.inj known
      exact ⟨some error, rfl, same⟩
    | failed failure => cases known

/-- A search tells what it meets on its walk and gives it in the order of identifier and path. -/
theorem discover_report (known : (discover files root).result = .ok found) :
    ∃ walk obstacle, Walks files (searchRoot files root) walk obstacle ∧
      found = walk.mergeSort precedes ∧
      discover files root =
        ⟨walk.map foundMessage ++ obstacle.toList.map blockedMessage, .ok found⟩ := by
  rw [discover, Report.bind_result_eq_ok] at known
  obtain ⟨walk, gathered, same⟩ := known
  obtain rfl : walk.mergeSort precedes = found := Except.ok.inj same
  obtain ⟨obstacle, met, report⟩ := gather_report gathered
  refine ⟨walk, obstacle, met, rfl, ?_⟩
  rw [discover, report, Report.bind_ok]
  simp

/-! ### What is told of markers -/

/-- The one message about the markers of a control file, and the markers: their number if they can
be read, or else a warning, and then there are none. -/
inductive Reads (files : FileSystem) (file : ControlFile) : Message → List Marker → Prop
  | counted {markers : List Marker} (read : markersAt files file.path = .ok markers) :
    Reads files file
      ⟨.debug, "Found " ++ Numeral.text markers.length ++ " SAVE_TIMESTAMPS in " ++ file.path⟩
      markers
  | unopened {reason : Refusal} {shown : String}
      (refused : files.readPermitted file.path = .error (.refused reason shown)) :
    Reads files file ⟨.warning, "Unable to open ASM file: " ++ file.path⟩ []
  | overlong {digits : Nat}
      (long : markersAt files file.path = .error (.numeralTooLong digits)) :
    Reads files file
      ⟨.warning, "Error parsing SAVE_TIMESTAMPS in " ++ file.path ++ ": " ++
        (Failure.numeralTooLong digits).message⟩
      []

/-- What is told of the markers in what leads to a file. -/
theorem reads_markersMessage (leads : files.isFile file.path = .ok true) :
    Reads files file (markersMessage file.path (markersAt files file.path))
      (markersOf files file.path) := by
  obtain ⟨location, content, there⟩ := FileSystem.isFile_eq_true_iff.mp leads
  have read : files.read file.path = .ok content := by
    rw [FileSystem.read, there]
  -- A file that is there can be opened unless it is barred, and then only an index can be at fault.
  cases barred : files.isBarred file.path with
  | true =>
    have refused : files.readPermitted file.path =
        .error (.refused .permissionDenied file.path) := by
      rw [FileSystem.readPermitted, if_pos barred]
    have failed : markersAt files file.path =
        .error (.access (.refused .permissionDenied file.path)) := by
      rw [markersAt, refused]
    rw [markersOf, failed]
    exact .unopened refused
  | false =>
    have opened : files.readPermitted file.path = .ok content := by
      rw [FileSystem.readPermitted, barred, if_neg Bool.false_ne_true, read]
    have known := RawMarker.markersAt_eq_reading opened
    rw [RawMarker.reading] at known
    cases longest : (RawMarker.scan content).find? RawMarker.isTooLong with
    | none =>
      rw [longest] at known
      rw [markersOf, known]
      exact .counted known
    | some long =>
      rw [longest] at known
      rw [markersOf, known]
      exact .overlong known

/-- Reading markers tells one message for each control file, in their order. -/
theorem withMarkers_report (files : FileSystem) (found : List ControlFile) :
    withMarkers files found =
      ⟨found.map fun file => markersMessage file.path (markersAt files file.path),
        .ok (found.map (marked files))⟩ := by
  induction found with
  | nil => rfl
  | cons file found ih =>
    rw [withMarkers, ih, readMarkers, Report.bind_ok, Report.bind_ok, Report.pure_eq,
      List.append_nil]
    rfl

end ControlFile

/-! ### What a generation tells -/

namespace Generator

open ControlFile (Walks Reads markersOf foundMessage blockedMessage precedes searchRoot)

variable {generator : Generator} {counters : List Counter} {written : Bool}

/-- The message that some counters have been retrieved. -/
def retrievedMessage (counters : List Counter) : Message :=
  ⟨.debug, "Retrieved " ++ Numeral.text counters.length ++ " configured AIE counters"⟩

/-- The last message of a generation that has found control files and counters, and whether it has
written a script. -/
inductive Ends (generator : Generator) (files : FileSystem) (found : List ControlFile) :
    Message → Bool → Prop
  | noMarkers (unmarked : ∀ file ∈ found, markersOf files file.path = []) :
    Ends generator files found
      ⟨.debug,
        "No SAVE_TIMESTAMPS instructions found in ASM files. CT file will not be generated."⟩
      false
  | written (marked : ∃ file ∈ found, markersOf files file.path ≠ []) :
    Ends generator files found
      ⟨.info, "Generated CT file: " ++ generator.outputPath files⟩ true
  | refused (marked : ∃ file ∈ found, markersOf files file.path ≠ []) :
    Ends generator files found
      ⟨.warning, "Unable to create CT file: " ++ generator.outputPath files⟩ false

/-- The messages of a generation that follow the search for control files, by how far it comes, and
whether it has written a script. -/
inductive Continues (generator : Generator) (files : FileSystem) (found : List ControlFile) :
    List Message → Bool → Prop
  | noFiles (nothing : found = []) :
    Continues generator files found
      [⟨.debug, "No aie_runtime_control<id>.asm files found. CT file will not be generated."⟩]
      false
  | noCounters (some : found ≠ []) (nothing : generator.counters.result = .ok []) :
    Continues generator files found
      [retrievedMessage [],
        ⟨.debug, "No AIE counters configured. CT file will not be generated."⟩]
      false
  | complete {counters : List Counter} {messages : List Message} {last : Message} {written : Bool}
      (some : found ≠ []) (counted : generator.counters.result = .ok counters)
      (proper : counters ≠ [])
      (read : List.Forall₂
        (fun file message => Reads files file message (markersOf files file.path)) found messages)
      (ends : Ends generator files found last written) :
    Continues generator files found (retrievedMessage counters :: messages ++ [last]) written

theorem counters_report (counted : generator.counters.result = .ok counters) :
    generator.counters = ⟨[retrievedMessage counters], .ok counters⟩ := by
  rw [counters_result] at counted
  rw [Generator.counters, Counter.enumerate, counted]
  rfl

/-- The end of a generation that writes nothing, for a reason. -/
private def stop (files : FileSystem) (reason : String) : Report (Bool × FileSystem) :=
  ⟨[⟨.debug, reason ++ ". CT file will not be generated."⟩], .ok (false, files)⟩

/-- What a generation does with control files that have been read. -/
private def conclude (generator : Generator) (files : FileSystem) (read : List ControlFile)
    (counters : List Counter) : Report (Bool × FileSystem) :=
  if read.all fun file => file.markers.isEmpty then
    stop files "No SAVE_TIMESTAMPS instructions found in ASM files"
  else do
    let text ← Report.ofExcept (Script.renderRead? Script.defaultDataFile
      (ControlFile.assign read counters) counters)
    Script.save files text (generator.outputPath files)

/-- What a generation does with the control files that it has found. -/
private def proceed (generator : Generator) (files : FileSystem) (found : List ControlFile) :
    Report (Bool × FileSystem) :=
  if found.isEmpty then stop files "No aie_runtime_control<id>.asm files found"
  else do
    let counters ← generator.counters
    if counters.isEmpty then stop files "No AIE counters configured"
    else do
      let read ← ControlFile.withMarkers files found
      conclude generator files read counters

private theorem generate_eq (generator : Generator) (files : FileSystem) :
    generator.generate files =
      ControlFile.discover files generator.searchDirectory >>= proceed generator files := by
  rw [generate, script?, Report.bind_assoc]
  refine Report.bind_congr fun found _ => ?_
  rw [proceed]
  split
  · rfl
  rw [Report.bind_assoc]
  refine Report.bind_congr fun counters _ => ?_
  split
  · rfl
  rw [Report.bind_assoc]
  refine Report.bind_congr fun read _ => ?_
  rw [conclude]
  split
  · rfl
  rw [Report.bind_assoc]
  rfl

/-- Saving a script tells whether it could be written. -/
theorem ends_of_save {text : String} (marked : ∃ file ∈ found, markersOf files file.path ≠ [])
    (known : (Script.save files text (generator.outputPath files)).result = .ok (written, after)) :
    ∃ last, (Script.save files text (generator.outputPath files)).messages = [last] ∧
      Ends generator files found last written := by
  have tidy : (Path.ofString (generator.outputPath files)).text = generator.outputPath files :=
    Script.tidy_outputPath files generator.outputDirectory
  rw [Script.save, tidy] at known ⊢
  split at known
  · obtain ⟨rfl, -⟩ := Prod.mk.inj (Except.ok.inj known)
    exact ⟨_, rfl, .written marked⟩
  · cases known
  · obtain ⟨rfl, -⟩ := Prod.mk.inj (Except.ok.inj known)
    exact ⟨_, rfl, .refused marked⟩

/-- What a generation tells once the control files have been read. -/
private theorem ends_of_conclude
    (known : (conclude generator files (found.map (ControlFile.marked files)) counters).result =
      .ok (written, after)) :
    ∃ last, (conclude generator files (found.map (ControlFile.marked files)) counters).messages =
        [last] ∧ Ends generator files found last written := by
  have unmarked_iff :
      ((found.map (ControlFile.marked files)).all fun file => file.markers.isEmpty) ↔
        ∀ file ∈ found, markersOf files file.path = [] := by
    simp [ControlFile.marked]
  rw [conclude] at known ⊢
  by_cases unmarked : (found.map (ControlFile.marked files)).all fun file => file.markers.isEmpty
  · rw [if_pos unmarked] at known ⊢
    obtain ⟨rfl, -⟩ := Prod.mk.inj (Except.ok.inj known)
    exact ⟨_, rfl, .noMarkers (unmarked_iff.mp unmarked)⟩
  · rw [if_neg unmarked] at known ⊢
    obtain ⟨text, -, saved, told⟩ := Report.messages_of_bind known
    have marked : ∃ file ∈ found, markersOf files file.path ≠ [] := by
      simpa using mt unmarked_iff.mpr unmarked
    rw [told]
    exact ends_of_save marked saved

/-- What a generation tells after its search. -/
private theorem continues_of_proceed (leads : ∀ file ∈ found, files.isFile file.path = .ok true)
    (known : (proceed generator files found).result = .ok (written, after)) :
    Continues generator files found (proceed generator files found).messages written := by
  rw [proceed] at known ⊢
  -- The gates in the order of the generation: control files, counters, markers.
  by_cases nothingFound : found = []
  · subst nothingFound
    obtain ⟨rfl, -⟩ := Prod.mk.inj (Except.ok.inj known)
    exact .noFiles rfl
  rw [if_neg (by simpa using nothingFound)] at known ⊢
  obtain ⟨counters, counted, known, told⟩ := Report.messages_of_bind known
  rw [told, counters_report counted]
  by_cases nothingCounted : counters = []
  · subst nothingCounted
    obtain ⟨rfl, -⟩ := Prod.mk.inj (Except.ok.inj known)
    exact .noCounters nothingFound counted
  rw [if_neg (by simpa using nothingCounted)] at known ⊢
  rw [ControlFile.withMarkers_report, Report.bind_ok] at known ⊢
  obtain ⟨last, told, ends⟩ := ends_of_conclude known
  have reads : List.Forall₂
      (fun file message => Reads files file message (markersOf files file.path)) found
      (found.map fun file =>
        ControlFile.markersMessage file.path (ControlFile.markersAt files file.path)) := by
    rw [List.forall₂_map_right_iff, List.forall₂_same]
    exact fun file member => ControlFile.reads_markersMessage (leads file member)
  rw [told]
  exact .complete nothingFound counted nothingCounted reads ends

/-- What a generation tells that gives a result. -/
theorem messages_of_generate (known : (generator.generate files).result = .ok (written, after)) :
    ∃ walk obstacle found later,
      Walks files (searchRoot files generator.searchDirectory) walk obstacle ∧
      found.Perm walk ∧ (found.Pairwise fun a b => a.precedes b) ∧
      Continues generator files found later written ∧
      (generator.generate files).messages =
        walk.map foundMessage ++ obstacle.toList.map blockedMessage ++ later := by
  rw [generate_eq] at known ⊢
  obtain ⟨found, discovered, known⟩ := Report.bind_result_eq_ok.mp known
  obtain ⟨walk, obstacle, walks, same, report⟩ := ControlFile.discover_report discovered
  have order : found.Perm walk := same ▸ List.mergeSort_perm walk precedes
  refine ⟨walk, obstacle, found, (proceed generator files found).messages, walks, order,
    ControlFile.pairwise_precedes discovered, ?_, ?_⟩
  · exact continues_of_proceed (fun file member => walks.isFile (order.mem_iff.mp member)) known
  · rw [report, Report.bind_ok]

theorem messages_listingFiles :
    ∃ after earlier, ((listingGenerator 25).generate listingFiles).result = .ok (true, after) ∧
      ((listingGenerator 25).generate listingFiles).messages =
        earlier ++ [⟨.info, "Generated CT file: /aie_profile.ct"⟩] := by
  obtain ⟨after, done⟩ := exists_generate_of_suffices (admissible_listingGenerator 25)
    collect_listingFiles suffices_listingCollection writeLocation_listingFiles
  obtain ⟨walk, obstacle, found, later, -, -, -, continues, told⟩ := messages_of_generate done
  cases continues with
  | complete _ _ _ _ ends =>
    cases ends with
    | written marked =>
      rw [← List.append_assoc] at told
      exact ⟨after, _, done, told⟩

end Generator

end CounterTrace
