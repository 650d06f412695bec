import CounterTrace.Proofs.Probes
import CounterTrace.Workflow

/-!
# What the workflows do with a request

A generation for a request loads the settings files and then does what a generator does, with the
counters, the device and the directories of the request. It has written exactly if the settings
load, the request has a value for everything that the generator works with, and the generator has
written.

Settings that do not load are an error of the inputs, unless the bytes of a file are no text or an
option is given no value. What an inspection does behind the loading is never to blame on the
inputs: the search takes a refusal for an answer, and so does the reading of control files.

## Main definitions

* `Report.BlamesNoInput` — no failure of a report is an error of the inputs
* `Request.Escapes` — the inputs whose failure is no error of the inputs
* `Request.Makes` — the generator that a request makes with the settings it names
* `Request.Yields` — the same, where these settings load

## Main results

* `Workflow.isInputError_of_load` — which failures of loading are errors of the inputs
* `Workflow.isInputError_of_inspect` — no later failure of an inspection is one
* `Workflow.exists_yields_of_generate`, `Workflow.generate_of_yields` — when a generation for a
  request has written
* `Generator.read_of_generate` — what a generation has written is the script of its collection
-/

namespace CounterTrace

variable {files after : FileSystem} {root : Option String} {failure : Failure}

/-! ### Failures behind the inputs -/

namespace Report

variable {α β : Type} {first : Report α} {next : α → Report β}

/-- No failure of the report is an error of the inputs. -/
def BlamesNoInput (report : Report α) : Prop :=
  ∀ failure, report.result = .error failure → failure.isInputError = false

theorem blamesNoInput_of_ok {report : Report α} {a : α} (known : report.result = .ok a) :
    report.BlamesNoInput := by
  intro failure failed
  rw [known] at failed
  cases failed

theorem BlamesNoInput.bind (start : first.BlamesNoInput)
    (rest : ∀ a, first.result = .ok a → (next a).BlamesNoInput) :
    (first >>= next).BlamesNoInput := by
  intro failure failed
  rcases bind_result_eq_error.mp failed with early | ⟨a, known, late⟩
  · exact start failure early
  · exact rest a known failure late

end Report

theorem blamesNoInput_optionalPath (option : Option (OptionValue String)) :
    (Report.ofExcept (optionalPath option)).BlamesNoInput := by
  intro failure failed
  rcases option with _ | (path | _)
  · cases failed
  · cases failed
  · cases failed
    rfl

/-- A search takes a refusal for an answer. -/
theorem ControlFile.blamesNoInput_discover (wellFormed : files.WellFormed) :
    (discover files root).BlamesNoInput := by
  intro failure failed
  rw [(discover_eq_error wellFormed failed).1]
  rfl

/-- A counter without an address is no error of the inputs. -/
theorem Counter.blamesNoInput_enumerate (geometry : Geometry) (store : CounterStore)
    (device : Int) : (enumerate geometry store device).BlamesNoInput := by
  intro failure failed
  rw [enumerate_result] at failed
  obtain ⟨configured, -, addressless⟩ := ofSlots_eq_error failed
  rcases Geometry.tileAddress_eq_error (ofConfigured_eq_error_iff.mp addressless) with
    ⟨rfl, -⟩ | rfl | rfl <;> rfl

theorem Workflow.blamesNoInput_counters (request : Request) (metadata : Metadata)
    (store : CounterStore) : (counters request metadata store).BlamesNoInput := by
  unfold counters
  split
  · exact Counter.blamesNoInput_enumerate _ _ _
  · intro failure failed
    cases failed
    rfl

/-- A collection fails as its search or the enumeration of its counters does. -/
theorem Collection.blamesNoInput_gather {report : Report (List Counter)}
    (wellFormed : files.WellFormed) (counted : report.BlamesNoInput) :
    (gather files root report).BlamesNoInput := by
  have loading : (ControlFile.load files root).BlamesNoInput :=
    (ControlFile.blamesNoInput_discover wellFormed).bind fun found _ =>
      Report.blamesNoInput_of_ok (ControlFile.withMarkers_result files found)
  exact loading.bind fun loaded _ => counted.bind fun counters _ => Report.blamesNoInput_of_ok rfl

/-! ### Failures of loading -/

/-- The bytes of the file at a path are no text in UTF-8. -/
def FileSystem.Undecodable (files : FileSystem) (path : String) : Prop :=
  ∃ bytes fault, files.read path = .ok bytes ∧ Utf8.decode bytes = .error fault

theorem FileSystem.read_ne_nullCharacter {path : String} (whole : '\x00' ∉ path.toList) :
    files.read path ≠ .error .nullCharacter := by
  intro rejected
  rw [read] at rejected
  split at rejected
  · rename_i known
    cases rejected
    exact whole (FileSystem.target_eq_nullCharacter_iff.mp known)
  all_goals cases rejected

/-- A settings file that does not load is an error of the inputs, unless its bytes are no text. -/
theorem Settings.isInputError_of_load {α : Type} {parse : List Char → Except Failure α}
    {path : String} (whole : '\x00' ∉ path.toList)
    (judged : ∀ text failure, parse text = .error failure → failure.isInputError = true)
    (failing : (readText files path).bind parse = .error failure) :
    failure.isInputError = false ↔ files.Undecodable path := by
  rw [readText] at failing
  cases content : files.read path with
  | error error =>
    rw [content] at failing
    cases failing
    cases error with
    | nullCharacter => exact absurd content (FileSystem.read_ne_nullCharacter whole)
    | refused reason shown => simp [Failure.isInputError, FileSystem.Undecodable, content]
  | ok bytes =>
    rw [content] at failing
    dsimp only at failing
    cases decoded : Utf8.decode bytes with
    | error fault =>
      rw [decoded] at failing
      cases failing
      exact iff_of_true rfl ⟨bytes, fault, content, decoded⟩
    | ok text =>
      rw [decoded] at failing
      simp [judged _ failure failing, FileSystem.Undecodable, content, decoded]

/-- A settings file with issues is an error of the inputs. -/
theorem Settings.isInputError_of_issues {α : Type} {kind : SettingsKind}
    {judged : Except (List Issue) α} (failing : judged.mapError (.invalid kind) = .error failure) :
    failure.isInputError = true := by
  cases judged <;> cases failing
  rfl

private theorem Workflow.error_of_bind {α β : Type} {first : Except Failure α}
    {next : α → Except Failure β} (failing : (first >>= next) = .error failure) :
    first = .error failure ∨ ∃ a, first = .ok a ∧ next a = .error failure := by
  cases first with
  | error early =>
    cases failing
    exact Or.inl rfl
  | ok a => exact Or.inr ⟨a, rfl, failing⟩

section

variable [Numeral.SignRule]

/-- The metadata that a request names, or the default ones. -/
def Request.LoadsMetadata (request : Request) (files : FileSystem) (metadata : Metadata) : Prop :=
  ∃ path, optionalPath request.metadata = .ok path ∧
    Workflow.loadMetadata files path = .ok metadata

/-- The inputs whose failure is no error of the inputs: an option for a settings file that is given
no value, and a settings file whose bytes are no text. The metadata come first. With an argument
parser that keeps the separator behind an equals sign, no option is given without a value. -/
inductive Request.Escapes (request : Request) (files : FileSystem) : Prop where
  | metadataVoid (void : request.metadata = some .void)
  | metadataText (path : String) (named : request.metadata = some (.value path))
      (undecodable : files.Undecodable path)
  | countersVoid (metadata : Metadata) (loaded : request.LoadsMetadata files metadata)
      (void : request.counters = .void)
  | countersText (metadata : Metadata) (loaded : request.LoadsMetadata files metadata)
      (path : String) (named : request.counters = .value path)
      (undecodable : files.Undecodable path)

namespace Workflow

variable {request : Request} {metadata : Metadata} {store : CounterStore} {generation : Generation}

/-- Metadata that have been loaded do not escape. -/
theorem metadata_of_loadsMetadata (loaded : request.LoadsMetadata files metadata) :
    request.metadata ≠ some .void ∧
      ∀ path, request.metadata = some (.value path) → ¬ files.Undecodable path := by
  obtain ⟨option, known, loaded⟩ := loaded
  refine ⟨fun void => ?_, ?_⟩
  · rw [void] at known
    cases known
  · rintro path named ⟨bytes, fault, content, decoded⟩
    rw [named] at known
    cases known
    simp [loadMetadata, Metadata.load, Settings.readText, content, decoded, Except.bind] at loaded

/-- Where loading can fail: at the metadata, or behind them at the counters. -/
theorem load_eq_error (failing : load files request = .error failure) :
    (request.metadata = some .void ∧ failure = .pathMissing) ∨
      (∃ path, request.metadata = some (.value path) ∧
        Metadata.load files path = .error failure) ∨
      ∃ metadata, request.LoadsMetadata files metadata ∧
        ((request.counters = .void ∧ failure = .pathMissing) ∨
          ∃ path, request.counters = .value path ∧
            CounterStore.load files path = .error failure) := by
  rcases error_of_bind failing with nameless | ⟨option, known, failing⟩
  · rcases given : request.metadata with _ | (path | _) <;> rw [given] at nameless <;>
      cases nameless
    exact Or.inl ⟨rfl, rfl⟩
  rcases error_of_bind failing with unloaded | ⟨metadata, loaded, failing⟩
  · rcases given : request.metadata with _ | (path | _) <;> rw [given] at known <;> cases known
    · cases unloaded
    · exact Or.inr (Or.inl ⟨path, rfl, unloaded⟩)
  refine Or.inr (Or.inr ⟨metadata, ⟨option, known, loaded⟩, ?_⟩)
  rcases error_of_bind failing with nameless | ⟨path, named, failing⟩
  · cases given : request.counters <;> rw [given] at nameless <;> cases nameless
    exact Or.inl ⟨rfl, rfl⟩
  · refine Or.inr ⟨path, ?_, ?_⟩
    · cases given : request.counters <;> rw [given] at named <;> cases named
      rfl
    · rcases error_of_bind failing with unloaded | ⟨store, -, finished⟩
      · exact unloaded
      · cases finished

/-- Settings that do not load are an error of the inputs, with these exceptions. -/
theorem isInputError_of_load
    (whole : ∀ path, request.counters = .value path ∨ request.metadata = some (.value path) →
      '\x00' ∉ path.toList)
    (failing : load files request = .error failure) :
    failure.isInputError = false ↔ request.Escapes files := by
  rcases load_eq_error failing with ⟨void, rfl⟩ | ⟨path, named, unloaded⟩ |
    ⟨metadata, loaded, ⟨void, rfl⟩ | ⟨path, named, unloaded⟩⟩
  · exact iff_of_true rfl (.metadataVoid void)
  · have judged := Settings.isInputError_of_load (whole path (Or.inr named))
      (fun _ _ => Settings.isInputError_of_issues) unloaded
    -- With such metadata no other metadata load.
    have only : ∀ metadata, ¬ request.LoadsMetadata files metadata := by
      rintro metadata ⟨option, known, loaded⟩
      rw [named] at known
      cases known
      cases unloaded.symm.trans loaded
    rw [judged]
    constructor
    · exact .metadataText path named
    · rintro (void | ⟨other, given, undecodable⟩ | ⟨metadata, loaded, -⟩ | ⟨metadata, loaded, -⟩)
      · cases named.symm.trans void
      · cases named.symm.trans given
        exact undecodable
      · exact absurd loaded (only metadata)
      · exact absurd loaded (only metadata)
  · exact iff_of_true rfl (.countersVoid metadata loaded void)
  · have judged := Settings.isInputError_of_load (whole path (Or.inl named))
      (fun _ _ => Settings.isInputError_of_issues) unloaded
    rw [judged]
    constructor
    · exact .countersText metadata loaded path named
    · rintro (void | ⟨other, given, undecodable⟩ | ⟨-, -, void⟩ | ⟨-, -, other, given, undecodable⟩)
      · exact absurd void (metadata_of_loadsMetadata loaded).1
      · exact absurd undecodable ((metadata_of_loadsMetadata loaded).2 other given)
      · cases named.symm.trans void
      · cases named.symm.trans given
        exact undecodable

/-! ### Failures of the workflows -/

/-- After loading no failure of an inspection is an error of the inputs. -/
theorem isInputError_of_inspect (wellFormed : files.WellFormed)
    (loaded : load files request = .ok (metadata, store))
    (failed : inspect files request = .error failure) : failure.isInputError = false := by
  rw [inspect] at failed
  rcases error_of_bind failed with unloaded | ⟨settings, known, failed⟩
  · cases loaded.symm.trans unloaded
  obtain rfl := Except.ok.inj (loaded.symm.trans known)
  rcases error_of_bind failed with missing | ⟨searchDirectory, -, failed⟩
  · exact blamesNoInput_optionalPath _ failure missing
  rcases error_of_bind failed with late | ⟨collection, -, finished⟩
  · exact Collection.blamesNoInput_gather wellFormed (blamesNoInput_counters _ _ _) failure late
  · cases finished

/-- Where loading fails, both workflows do. -/
theorem generate_of_load_error (failed : load files request = .error failure) :
    (generate files request).result = .error failure := by
  rw [generate, failed]
  rfl

theorem inspect_of_load_error (failed : load files request = .error failure) :
    inspect files request = .error failure := by
  rw [inspect, failed]
  rfl

end Workflow

end

/-! ### What a generation for a request does -/

/-- The generator that a request makes with the metadata and the counters that it names. The request
must have a value for everything that the generator works with. -/
structure Request.Makes (request : Request) (metadata : Metadata) (store : CounterStore)
    (generator : Generator) : Prop where
  store : generator.store = store
  geometry : generator.geometry = metadata.geometry
  device : request.device = .value generator.device
  search : optionalPath request.searchDirectory = .ok generator.searchDirectory
  output : optionalPath request.outputDirectory = .ok generator.outputDirectory

/-- The settings that a request names load, and with them it makes a generator. -/
def Request.Yields [Numeral.SignRule] (request : Request) (files : FileSystem)
    (generator : Generator) : Prop :=
  ∃ metadata store, Workflow.load files request = .ok (metadata, store) ∧
    request.Makes metadata store generator

theorem Request.Makes.counters_eq {request : Request} {metadata : Metadata} {store : CounterStore}
    {generator : Generator} (made : request.Makes metadata store generator) :
    Workflow.counters request metadata store = generator.counters := by
  rw [Workflow.counters, made.device, Generator.counters, made.store, made.geometry]

/-- What has not been saved has changed nothing. -/
theorem Generator.eq_of_save {script : Option String} {path : String}
    (kept : (save files script path).result = .ok (false, after)) : after = files := by
  cases script with
  | none =>
    cases kept
    rfl
  | some text =>
    rw [save, Script.save] at kept
    split at kept
    · cases kept
    · cases kept
    · cases kept
      rfl

namespace Workflow

variable [Numeral.SignRule] {request : Request} {metadata : Metadata} {store : CounterStore}
  {generation : Generation} {generator : Generator}

/-- A generation that comes to its end has gone through all its steps. -/
theorem steps_of_generate (done : (generate files request).result = .ok (generation, after)) :
    ∃ metadata store searchDirectory script outputDirectory,
      load files request = .ok (metadata, store) ∧
      optionalPath request.searchDirectory = .ok searchDirectory ∧
      (Generator.script? files searchDirectory (counters request metadata store)).result =
        .ok script ∧
      optionalPath request.outputDirectory = .ok outputDirectory ∧
      generation.path = Script.outputPath files outputDirectory ∧
      (Generator.save files script generation.path).result = .ok (generation.generated, after) := by
  obtain ⟨⟨metadata, store⟩, loaded, done⟩ := Report.bind_result_eq_ok.mp done
  obtain ⟨searchDirectory, search, done⟩ := Report.bind_result_eq_ok.mp done
  obtain ⟨script, known, done⟩ := Report.bind_result_eq_ok.mp done
  obtain ⟨outputDirectory, output, done⟩ := Report.bind_result_eq_ok.mp done
  obtain ⟨⟨generated, written⟩, saved, done⟩ := Report.bind_result_eq_ok.mp done
  cases done
  exact ⟨metadata, store, searchDirectory, script, outputDirectory, loaded, search, known, output,
    rfl, saved⟩

/-- A generation that has not written changes nothing. -/
theorem eq_of_not_generated (done : (generate files request).result = .ok (generation, after))
    (kept : generation.generated = false) : after = files := by
  obtain ⟨-, -, -, script, -, -, -, -, -, -, saved⟩ := steps_of_generate done
  rw [kept] at saved
  exact Generator.eq_of_save saved

/-- Where a generation for a request has written, the request yields a generator, and this has
written. -/
theorem exists_yields_of_generate (done : (generate files request).result = .ok (generation, after))
    (generated : generation.generated = true) :
    ∃ generator, request.Yields files generator ∧
      (generator.generate files).result = .ok (true, after) := by
  obtain ⟨metadata, store, searchDirectory, script, outputDirectory, loaded, search, known, output,
    path, saved⟩ := steps_of_generate done
  rw [generated] at saved
  -- Without a device there is no script.
  have device : ∃ device, request.device = .value device := by
    cases script with
    | none => cases saved
    | some text =>
      obtain ⟨found, listed, -, counted, -⟩ := Generator.render_of_script?_some known
      cases given : request.device with
      | value device => exact ⟨device, rfl⟩
      | void =>
        rw [counters, given] at counted
        cases counted
  obtain ⟨device, given⟩ := device
  have made : request.Makes metadata store
      ⟨store, device, metadata.geometry, searchDirectory, outputDirectory⟩ :=
    ⟨rfl, rfl, given, search, output⟩
  refine ⟨_, ⟨metadata, store, loaded, made⟩, ?_⟩
  rw [Generator.generate, ← made.counters_eq, Report.bind_result_of_ok known, Generator.outputPath,
    ← path]
  exact saved

/-- A generation for a request has written if the generator that the request yields has written. -/
theorem generate_of_yields (yields : request.Yields files generator)
    (done : (generator.generate files).result = .ok (true, after)) :
    (generate files request).result =
      .ok (⟨true, generator.outputPath files, request.device⟩, after) := by
  obtain ⟨metadata, store, loaded, made⟩ := yields
  obtain ⟨script, known, saved⟩ := Report.bind_result_eq_ok.mp done
  rw [← made.counters_eq] at known
  refine Report.bind_result_eq_ok.mpr ⟨(metadata, store), loaded, ?_⟩
  refine Report.bind_result_eq_ok.mpr ⟨generator.searchDirectory, made.search, ?_⟩
  refine Report.bind_result_eq_ok.mpr ⟨script, known, ?_⟩
  refine Report.bind_result_eq_ok.mpr ⟨generator.outputDirectory, made.output, ?_⟩
  exact Report.bind_result_eq_ok.mpr ⟨(true, after), saved, rfl⟩

end Workflow

namespace Generator

variable {generator : Generator}

/-- What a generation has written is the script of what the generator collects. -/
theorem read_of_generate (wellFormed : files.WellFormed)
    (done : (generator.generate files).result = .ok (true, after)) :
    ∃ collection, (generator.collect files).result = .ok collection ∧
      after.read (generator.outputPath files) = .ok (Utf8.encode collection.script.toList) := by
  obtain ⟨found, counters, discovered, counted, written⟩ := exists_write_of_generate done
  exact ⟨_, collect_of_discover discovered counted, FileSystem.read_of_write wellFormed written⟩

end Generator

end CounterTrace
