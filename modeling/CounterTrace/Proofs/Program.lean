import CounterTrace.Proofs.Arguments
import CounterTrace.Proofs.Workflows

/-!
# How a run of the program ends

A run with accepted arguments sets its logger up and then either inspects or generates. It changes
files only if it generates, and then only if it ends with the status zero: whatever fails on the way
fails before the script is opened, and a script that cannot be opened is left as it is.

An input that does not load is reported, with the status one, if its file cannot be opened or does
not hold what it should. A file whose bytes are no text in UTF-8 is not among these cases, so its
failure ends the run.

## Main definitions

* `Options.Prepares` — the generator with which a run generates
* `Options.Escapes` — the inputs whose failure ends the run
* `CommandLine.IsReport` — what is printed about settings that do not load

## Main results

* `CommandLine.run_exit` — when a run changes files, and what its status says
* `CommandLine.run_of_load_error` — how a run ends whose inputs do not load
-/

namespace CounterTrace

variable {files : FileSystem} {logger : Logger} {terminal : Terminal} {arguments : List String}
  {options : Options} {failure : Failure} {request : Request}

/-- The generator with which a run generates. The run must come to it: with an option for the level
that is given no value, the run fails before it loads its settings. -/
structure Options.Prepares [Numeral.SignRule] (options : Options) (files : FileSystem)
    (generator : Generator) : Prop where
  level : ∃ name, options.logLevel = .value name
  yields : options.request.Yields files generator

/-- What ends a run with a failure whose settings do not load: the level is given no value, which
not every release of the argument parser allows, or the settings fail with what is no error of the
inputs. -/
inductive Options.Escapes [Numeral.SignRule] (options : Options) (files : FileSystem) : Prop where
  | level (void : options.logLevel = .void)
  | settings (escapes : options.request.Escapes files)

namespace CommandLine

/-! ### Up to the workflow -/

/-- Each of the levels sets the logger up. -/
theorem exists_setUpLogger_eq_ok {name : String} (listed : name ∈ logLevels) :
    ∃ ready, setUpLogger logger terminal (.value name) = (ready, .ok ()) := by
  simp only [logLevels, List.mem_cons, List.not_mem_nil, or_false] at listed
  rcases listed with rfl | rfl | rfl <;> exact ⟨_, rfl⟩

section

variable [Numeral.SignRule]

/-- A run with accepted arguments ends where its level has no value, and else does what it is asked
for, with some logger. -/
theorem run_of_parse (accepted : parse arguments = .ok options) :
    options.logLevel = .void ∧
        (∃ ready, run files logger terminal arguments =
          ⟨.error .levelMissing, "", "", files, ready⟩) ∨
      (∃ name, options.logLevel = .value name) ∧
        ∃ ready, run files logger terminal arguments =
          if options.inspect then runInspection files ready terminal options.request
          else runGeneration files ready terminal options.request := by
  cases level : options.logLevel with
  | void =>
    refine Or.inl ⟨rfl, logger.withHandler terminal.errors none, ?_⟩
    rw [run, accepted]
    dsimp only
    rw [level]
    rfl
  | value name =>
    obtain ⟨ready, done⟩ := exists_setUpLogger_eq_ok (mem_logLevels_of_parse accepted level)
    refine Or.inr ⟨⟨name, rfl⟩, ready, ?_⟩
    rw [run, accepted]
    dsimp only
    rw [level, done]

/-! ### The workflows as runs -/

theorem files_runInspection :
    (runInspection files logger terminal request).files = files := by
  rw [runInspection]
  split <;> rfl

/-- An inspection that does not fail says by its status whether its settings load. -/
theorem runInspection_eq_ok {status : Nat} (wellFormed : files.WellFormed)
    (ended : (runInspection files logger terminal request).outcome = .ok status) :
    status = 0 ↔ ∃ settings, Workflow.load files request = .ok settings := by
  rw [runInspection] at ended
  cases loaded : Workflow.load files request with
  | error failure =>
    rw [Workflow.inspect_of_load_error loaded] at ended
    dsimp only at ended
    rw [failed] at ended
    split at ended
    · cases ended
      simp
    · cases ended
  | ok settings =>
    cases inspected : Workflow.inspect files request with
    | ok inspection =>
      rw [inspected] at ended
      cases ended
      simp
    | error failure =>
      -- What fails behind the loading gives no status.
      have late := Workflow.isInputError_of_inspect wellFormed loaded inspected
      rw [inspected] at ended
      simp [failed, late] at ended

/-- The run of a generation that has written. -/
theorem runGeneration_of_yields {generator : Generator} {after : FileSystem}
    (yields : request.Yields files generator)
    (done : (generator.generate files).result = .ok (true, after)) :
    runGeneration files logger terminal request =
      ⟨.ok 0, unlines [Colour.green.wrap terminal.output
          ("CT file written: " ++ generator.outputPath files)],
        logger.emitAll (Workflow.generate files request).messages, after, logger⟩ := by
  rw [runGeneration]
  dsimp only
  rw [Workflow.generate_of_yields yields done]
  simp

/-- A generation that has not written changes nothing and does not end with the status zero. -/
theorem runGeneration_of_not_yields
    (kept : ¬ ∃ generator after, request.Yields files generator ∧
      (generator.generate files).result = .ok (true, after)) :
    (runGeneration files logger terminal request).files = files ∧
      (runGeneration files logger terminal request).outcome ≠ .ok 0 := by
  rw [runGeneration]
  dsimp only
  cases done : (Workflow.generate files request).result with
  | error failure =>
    refine ⟨rfl, ?_⟩
    cases reported : failure.isInputError <;> simp [failed, reported]
  | ok finished =>
    obtain ⟨generation, after⟩ := finished
    have unwritten : generation.generated = false := by
      rw [← Bool.not_eq_true]
      intro generated
      obtain ⟨generator, yields, written⟩ := Workflow.exists_yields_of_generate done generated
      exact kept ⟨generator, after, yields, written⟩
    have same := Workflow.eq_of_not_generated done unwritten
    simp [unwritten, same]

/-- A generation that has changed a file ends with the status zero, and it does so exactly if it has
written. -/
theorem runGeneration_exit :
    ((runGeneration files logger terminal request).files ≠ files →
        (runGeneration files logger terminal request).outcome = .ok 0) ∧
      ((runGeneration files logger terminal request).outcome = .ok 0 ↔
        ∃ generator after, request.Yields files generator ∧
          (generator.generate files).result = .ok (true, after)) := by
  by_cases written : ∃ generator after, request.Yields files generator ∧
      (generator.generate files).result = .ok (true, after)
  · obtain ⟨generator, after, yields, done⟩ := written
    rw [runGeneration_of_yields yields done]
    exact ⟨fun _ => rfl, fun _ => ⟨generator, after, yields, done⟩, fun _ => rfl⟩
  · obtain ⟨same, nonzero⟩ := runGeneration_of_not_yields written
    exact ⟨fun changed => absurd same changed, fun zero => absurd zero nonzero,
      fun other => absurd other written⟩

/-! ### Whole runs -/

/-- How a run with accepted arguments ends. It changes files only if it does not inspect, and then
only if its status is zero. A run that does not inspect ends with the status zero exactly if it
comes to a generator, the settings having loaded, and this generator has written. Then the path that
it prints is that of a file with the script of all that the generator collects. A run that inspects
and does not fail ends with the status zero exactly if the settings load. -/
theorem run_exit {ended : Run} (wellFormed : files.WellFormed)
    (accepted : parse arguments = .ok options)
    (ran : run files logger terminal arguments = ended) :
    (ended.files ≠ files → ended.outcome = .ok 0 ∧ options.inspect = false) ∧
      (options.inspect = false →
        (ended.outcome = .ok 0 ↔ ∃ generator after, options.Prepares files generator ∧
          (generator.generate files).result = .ok (true, after)) ∧
        ∀ generator after, options.Prepares files generator →
          (generator.generate files).result = .ok (true, after) →
            ended.output = unlines [Colour.green.wrap terminal.output
              ("CT file written: " ++ generator.outputPath files)] ∧
            ended.files = after ∧ ∃ collection, (generator.collect files).result = .ok collection ∧
              ended.files.read (generator.outputPath files) =
                .ok (Utf8.encode collection.script.toList)) ∧
      (options.inspect = true → ∀ status, ended.outcome = .ok status →
        (status = 0 ↔ ∃ settings, Workflow.load files options.request = .ok settings)) := by
  rcases run_of_parse accepted with ⟨level, ready, whole⟩ | ⟨level, ready, whole⟩
  · -- The run ends before it loads its settings, and comes to no generator.
    obtain rfl := ran.symm.trans whole
    have stuck : ∀ generator, ¬ options.Prepares files generator := by
      rintro generator ⟨⟨name, given⟩, -⟩
      cases level.symm.trans given
    refine ⟨fun changed => absurd rfl changed, fun _ => ⟨?_, ?_⟩, fun _ status ended => ?_⟩
    · constructor
      · intro zero
        cases zero
      · rintro ⟨generator, after, prepares, -⟩
        exact absurd prepares (stuck generator)
    · exact fun generator after prepares => absurd prepares (stuck generator)
    · cases ended
  cases inspect : options.inspect with
  | true =>
    rw [inspect, if_pos rfl] at whole
    obtain rfl := ran.symm.trans whole
    refine ⟨fun changed => absurd files_runInspection changed, fun opposite => ?_, ?_⟩
    · cases opposite
    · exact fun _ status ended => runInspection_eq_ok wellFormed ended
  | false =>
    rw [inspect, if_neg Bool.false_ne_true] at whole
    obtain rfl := ran.symm.trans whole
    obtain ⟨changes, zero⟩ := @runGeneration_exit files ready terminal options.request _
    refine ⟨fun changed => ⟨changes changed, rfl⟩, fun _ => ⟨zero.trans ?_, ?_⟩, fun opposite => ?_⟩
    · constructor
      · rintro ⟨generator, after, yields, done⟩
        exact ⟨generator, after, ⟨level, yields⟩, done⟩
      · rintro ⟨generator, after, prepares, done⟩
        exact ⟨generator, after, prepares.yields, done⟩
    · intro generator after prepares done
      rw [runGeneration_of_yields prepares.yields done]
      exact ⟨rfl, rfl, Generator.read_of_generate wellFormed done⟩
    · cases opposite

end

/-- A directory with a settings file for one counter, and a directory with one listing in it. -/
def programFiles : FileSystem :=
  ⟨.directory [("c.json", .file (Utf8.encode ("\x7b\"0\": [\x7b\"column\": 1, \"row\": 2, " ++
      "\"counterNumber\": 0, \"module\": \"aie\"\x7d]\x7d").toList)),
    ("work", .directory
      [("aie_runtime_control0.asm", .file (Utf8.encode "SAVE_TIMESTAMPS".toList))])], [], []⟩

/-- The counters in that settings file. -/
def programStore : CounterStore := ⟨[(0, [some ⟨1, 2, 0, "aie"⟩])]⟩

/-- The generator that a run there makes. -/
def programGenerator : Generator where
  store := programStore
  device := 0
  geometry := ⟨25, 20⟩
  searchDirectory := some "/work"
  outputDirectory := none

/-- The options of a run there. -/
def programOptions : Options :=
  ⟨.value "c.json", none, .value 0, some (.value "/work"), none, .value "INFO", false⟩

theorem admissible_programGenerator : programGenerator.Admissible programFiles where
  files := by decide
  store :=
    ⟨("\x7b\"0\": [\x7b\"column\": 1, \"row\": 2, \"counterNumber\": 0, \"module\": \"aie\"\x7d]" ++
      "\x7d").toList, rfl⟩
  search := by
    intro path same
    cases same
    decide
  output := by simp [programGenerator]

theorem exists_generate_programFiles :
    ∃ after, (programGenerator.generate programFiles).result = .ok (true, after) := by
  have discovered : (ControlFile.discover programFiles (some "/work")).result =
      .ok [ControlFile.ofPath "/work/aie_runtime_control0.asm" 0] :=
    Generator.discover_of_single rfl rfl
  have collected : (programGenerator.collect programFiles).result = .ok
      ⟨[⟨"/work/aie_runtime_control0.asm", 0, [⟨1, none⟩], [⟨1, 2, 0, "aie", 0x2231520⟩]⟩],
        [⟨1, 2, 0, "aie", 0x2231520⟩], []⟩ :=
    Collection.gather_result_eq_ok_iff.mpr ⟨_, _, discovered, rfl, rfl, rfl, rfl⟩
  exact Generator.exists_generate_of_suffices admissible_programGenerator collected
    ⟨by simp, by simp, _, List.mem_cons_self, by simp⟩ rfl

theorem prepares_programOptions : programOptions.Prepares programFiles programGenerator where
  level := ⟨"INFO", rfl⟩
  yields := ⟨{}, programStore, by decide +kernel, rfl, rfl, rfl, rfl, rfl⟩

theorem run_exit_programFiles :
    ∃ ended, run programFiles .fresh ⟨false, false⟩ ["--counters", "c.json", "--root", "/work"] =
        ended ∧ ended.outcome = .ok 0 ∧
      ended.output = "CT file written: /aie_profile.ct\n" ∧
      ∃ script, ended.files.read "/aie_profile.ct" = .ok script := by
  have wellFormed : programFiles.WellFormed := by decide
  have accepted : parse ["--counters", "c.json", "--root", "/work"] = .ok programOptions := rfl
  obtain ⟨after, done⟩ := exists_generate_programFiles
  obtain ⟨-, generates, -⟩ :=
    @run_exit _ .fresh ⟨false, false⟩ _ _ _ _ wellFormed accepted rfl
  obtain ⟨zero, written⟩ := generates rfl
  obtain ⟨output, -, collection, -, read⟩ :=
    written programGenerator after prepares_programOptions done
  exact ⟨_, rfl, zero.mpr ⟨programGenerator, after, prepares_programOptions, done⟩, output, _, read⟩

/-! ### Inputs that do not load -/

/-- What is printed about settings that do not load: it begins with a line for the failure. About a
file that is refused there is nothing else; of the issues in a file, the line says how many there
are, and more lines may follow. -/
structure IsReport (terminal : Terminal) (failure : Failure) (output : String) : Prop where
  begins : ∃ rest, output = (if terminal.output then Colour.red.code else "") ++
    "Error loading inputs: " ++ failure.message ++ rest
  whole : ∀ error, failure = .access error → output =
    unlines [Colour.red.wrap terminal.output ("Error loading inputs: " ++ failure.message)]

theorem isReport_line (terminal : Terminal) (failure : Failure) :
    IsReport terminal failure (unlines
      [Colour.red.wrap terminal.output ("Error loading inputs: " ++ failure.message)]) := by
  refine ⟨⟨(if terminal.output then Colour.reset else "") ++ "\n", ?_⟩, fun _ _ => rfl⟩
  rw [unlines, Colour.wrap]
  cases terminal.output <;> simp [String.append_assoc]

section

variable [Numeral.SignRule]

/-- A run that comes to its settings, which do not load, reports their failure or ends with it. -/
theorem run_of_level {ended : Run} {name : String} (accepted : parse arguments = .ok options)
    (level : options.logLevel = .value name)
    (failing : Workflow.load files options.request = .error failure)
    (ran : run files logger terminal arguments = ended) :
    (ended.outcome, ended.output) = failed terminal failure ∧ ended.files = files := by
  rcases run_of_parse accepted with ⟨void, -⟩ | ⟨-, ready, whole⟩
  · cases void.symm.trans level
  obtain rfl := ran.symm.trans whole
  cases inspect : options.inspect with
  | true =>
    rw [if_pos rfl, runInspection, Workflow.inspect_of_load_error failing]
    exact ⟨rfl, rfl⟩
  | false =>
    rw [if_neg Bool.false_ne_true, runGeneration]
    dsimp only
    rw [Workflow.generate_of_load_error failing]
    exact ⟨rfl, rfl⟩

/-- How a run ends whose settings do not load, with accepted arguments without null characters. The
run reports the failure, from its first line on, and ends with the status one, unless an option is
given no value or the bytes of a settings file are no text; then it prints nothing and ends with a
failure. Either way no file is changed. -/
theorem run_of_load_error {ended : Run} (accepted : parse arguments = .ok options)
    (whole : ∀ argument ∈ arguments, '\x00' ∉ argument.toList)
    (failing : Workflow.load files options.request = .error failure)
    (ran : run files logger terminal arguments = ended) :
    (¬ options.Escapes files →
        ended.outcome = .ok 1 ∧ IsReport terminal failure ended.output) ∧
      (options.Escapes files → (∃ cause, ended.outcome = .error cause) ∧ ended.output = "") ∧
      ended.files = files := by
  cases level : options.logLevel with
  | void =>
    rcases run_of_parse accepted with ⟨-, ready, early⟩ | ⟨⟨name, given⟩, -⟩
    · obtain rfl := ran.symm.trans early
      exact ⟨fun held => absurd (.level level) held, fun _ => ⟨⟨_, rfl⟩, rfl⟩, rfl⟩
    · cases level.symm.trans given
  | value name =>
    obtain ⟨reported, same⟩ := run_of_level accepted level failing ran
    have paths : ∀ path, options.request.counters = .value path ∨
        options.request.metadata = some (.value path) → '\x00' ∉ path.toList := by
      intro path named
      exact notMem_of_parse accepted whole (named.imp_right Or.inl)
    have escapesIff := Workflow.isInputError_of_load paths failing
    rw [failed] at reported
    refine ⟨fun held => ?_, fun escapes => ?_, same⟩
    · have input : failure.isInputError = true := by
        rw [← Bool.not_eq_false, escapesIff]
        exact fun escapes => held (.settings escapes)
      rw [if_pos input] at reported
      obtain ⟨status, output⟩ := Prod.mk.inj reported
      exact ⟨status, output ▸ isReport_line terminal failure⟩
    · have other : failure.isInputError = false := by
        rcases escapes with void | settings
        · cases level.symm.trans void
        · exact escapesIff.mpr settings
      rw [if_neg (by simp [other])] at reported
      exact ⟨⟨failure, (Prod.mk.inj reported).1⟩, (Prod.mk.inj reported).2⟩

end

/-- The options of a run that only names its counters. -/
def bareOptions : Options :=
  ⟨.value "c.json", none, .value 0, none, none, .value "INFO", false⟩

/-- The failure of a settings file that is missing. -/
theorem run_missing :
    ∃ ended, run ⟨.directory [], [], []⟩ .fresh ⟨false, false⟩ ["--counters", "c.json"] = ended ∧
      ended.outcome = .ok 1 ∧
      ended.output = "Error loading inputs: [Errno 2] No such file or directory: 'c.json'\n" := by
  have accepted : parse ["--counters", "c.json"] = .ok bareOptions := rfl
  have whole : ∀ argument ∈ ["--counters", "c.json"], '\x00' ∉ argument.toList := by decide
  have failing : Workflow.load ⟨.directory [], [], []⟩ bareOptions.request =
      .error (.access (.refused .notFound "c.json")) := rfl
  have held : ¬ bareOptions.Escapes ⟨.directory [], [], []⟩ := by
    rintro (void | (void | ⟨path, named, -⟩ | ⟨-, -, void⟩ | ⟨-, -, path, named, undecodable⟩))
    · cases void
    · cases void
    · cases named
    · cases void
    · cases named
      obtain ⟨bytes, fault, content, -⟩ := undecodable
      cases content
  obtain ⟨reports, -⟩ :=
    @run_of_load_error _ .fresh ⟨false, false⟩ _ _ _ _ _ accepted whole failing rfl
  obtain ⟨status, report⟩ := reports held
  exact ⟨_, rfl, status, report.whole _ rfl⟩

/-- The failure of a settings file that is no text in UTF-8. -/
theorem run_undecodable :
    ∃ ended failure, run ⟨.directory [("c.json", .file [0xFF])], [], []⟩ .fresh ⟨false, false⟩
        ["--counters", "c.json"] = ended ∧
      Workflow.load ⟨.directory [("c.json", .file [0xFF])], [], []⟩ bareOptions.request =
        .error failure ∧
      ended.outcome = .error failure ∧ ended.output = "" :=
  ⟨_, .undecodable ⟨.start, 0xFF, 0, 1⟩, rfl, rfl, rfl, rfl⟩

end CommandLine

end CounterTrace
