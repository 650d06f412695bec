import CounterTrace.CommandLine.Program

/-!
# What the options hold

The options that a command line makes hold nothing but what its arguments say. A text attached to an
option is the end of its argument, so every value that an option is given, attached to it or behind
it, is the end of an argument. Reading the arguments from left to right keeps whatever holds at
first and is kept by the taking of one option; so a path among the options is the end of an
argument, and the level is one of those that can be chosen.

## Main definitions

* `CommandLine.IsGiven` — a text is the end of an argument
* `Options.Names` — a path that the options hold

## Main results

* `CommandLine.Reading.takeAll_keeps` — what the taking of one option keeps, a whole reading keeps
* `CommandLine.isGiven_of_parse` — every path among the options is the end of an argument
* `CommandLine.mem_logLevels_of_parse` — the level among the options is one of the levels
-/

namespace CounterTrace

/-- The options hold a path. -/
def Options.Names (options : Options) (path : String) : Prop :=
  options.counters = .value path ∨ options.metadata = some (.value path) ∨
    options.root = some (.value path) ∨ options.outputDirectory = some (.value path)

namespace CommandLine

variable {arguments : List String} {argument text : String} {kind : ArgumentKind}
  {key : OptionKey} {classified : List (String × ArgumentKind)} {state final : Reading}
  {options : Options}

private theorem exists_of_map_eq_ok {ε α β : Type} {f : α → β} {result : Except ε α} {b : β}
    (known : result.map f = .ok b) : ∃ a, result = .ok a ∧ f a = b := by
  cases result with
  | error => cases known
  | ok a => exact ⟨a, rfl, Except.ok.inj known⟩

/-- A text is the end of an argument. -/
def IsGiven (arguments : List String) (text : String) : Prop :=
  ∃ argument ∈ arguments, text.toList <:+ argument.toList

/-! ### Attached texts -/

/-- The text behind an equals sign is the end of the argument. -/
theorem suffix_of_splitEquals (split : (splitEquals argument).2 = some text) :
    text.toList <:+ argument.toList := by
  have rest := List.dropWhile_suffix (l := argument.toList) (· != '=')
  unfold splitEquals at split
  dsimp only at split
  split at split
  · cases split
  · rename_i value known
    obtain rfl := Option.some.inj split
    rw [known] at rest
    rw [String.toList_ofList]
    exact (List.suffix_cons _ _).trans rest

/-- So is every text that is attached to an option in some other way. -/
theorem suffix_of_mem_candidates {spelling : String}
    (member : (spelling, .option key (some text)) ∈ candidates argument) :
    text.toList <:+ argument.toList := by
  unfold candidates at member
  dsimp only at member
  split at member
  · obtain ⟨entry, -, same⟩ := List.mem_map.mp member
    exact suffix_of_splitEquals (ArgumentKind.option.inj (Prod.mk.inj same).2).2
  · obtain ⟨entry, -, same⟩ := List.mem_filterMap.mp member
    -- A text is attached only to an option of one letter, which is in front of it.
    split at same
    · have attached := (ArgumentKind.option.inj (Prod.mk.inj (Option.some.inj same)).2).2
      rw [← Option.some.inj attached, String.toList_ofList]
      exact List.drop_suffix 2 argument.toList
    · split at same
      · cases (ArgumentKind.option.inj (Prod.mk.inj (Option.some.inj same)).2).2
      · cases same

theorem suffix_of_classifyShortened
    (known : classifyShortened argument = .ok (.option key (some text))) :
    text.toList <:+ argument.toList := by
  unfold classifyShortened at known
  split at known
  · rename_i spelling kind only
    cases known
    exact suffix_of_mem_candidates (only ▸ List.mem_singleton_self _)
  · split at known <;> cases known
  · cases known

/-- A text that is attached to an option is the end of the argument. -/
theorem suffix_of_classify (known : classify argument = .ok (.option key (some text))) :
    text.toList <:+ argument.toList := by
  unfold classify at known
  split at known
  · cases known
  split at known
  · cases known
  split at known
  · cases known
  split at known
  · cases known
  split at known
  · rename_i name value parts
    split at known
    · cases known
      exact suffix_of_splitEquals (congrArg Prod.snd parts)
    · exact suffix_of_classifyShortened known
  · exact suffix_of_classifyShortened known

/-! ### Given texts -/

theorem IsGiven.cons (given : IsGiven arguments text) : IsGiven (argument :: arguments) text := by
  obtain ⟨source, listed, ending⟩ := given
  exact ⟨source, List.mem_cons_of_mem argument listed, ending⟩

theorem isGiven_head : IsGiven (argument :: arguments) argument :=
  ⟨argument, List.mem_cons_self, List.suffix_rfl⟩

/-- All that is read of some arguments is given by them: the arguments themselves, and the texts
attached to options. -/
def AllGiven (arguments : List String) (classified : List (String × ArgumentKind)) : Prop :=
  ∀ entry ∈ classified, IsGiven arguments entry.1 ∧
    ∀ key text, entry.2 = .option key (some text) → IsGiven arguments text

theorem AllGiven.cons (head : ∀ key text, kind = .option key (some text) → text.toList <:+
    argument.toList) (rest : AllGiven arguments classified) :
    AllGiven (argument :: arguments) ((argument, kind) :: classified) := by
  rw [AllGiven, List.forall_mem_cons]
  refine ⟨⟨isGiven_head, fun key text same => ?_⟩, fun entry member => ?_⟩
  · exact ⟨argument, List.mem_cons_self, head key text same⟩
  · obtain ⟨given, attached⟩ := rest entry member
    exact ⟨given.cons, fun key text same => (attached key text same).cons⟩

theorem allGiven_plain (arguments : List String) :
    AllGiven arguments (arguments.map fun argument => (argument, .plain)) := by
  intro entry member
  obtain ⟨argument, listed, rfl⟩ := List.mem_map.mp member
  exact ⟨⟨argument, listed, List.suffix_rfl⟩, fun key text same => by cases same⟩

theorem allGiven_of_classifyAll (known : classifyAll arguments = .ok classified) :
    AllGiven arguments classified := by
  induction arguments generalizing classified with
  | nil =>
    cases known
    exact List.forall_mem_nil _
  | cons argument rest ih =>
    rw [classifyAll] at known
    split at known
    · cases known
    · cases known
      exact (allGiven_plain rest).cons fun key text same => by cases same
    · rename_i kind single
      obtain ⟨more, tail, rfl⟩ := exists_of_map_eq_ok known
      refine (ih tail).cons fun key text same => ?_
      rw [same] at single
      exact suffix_of_classify single

/-! ### Reading the options -/

/-- The value of an option is given by some arguments. -/
def ValueGiven (arguments : List String) (value : OptionValue String) : Prop :=
  ∀ text, value = .value text → IsGiven arguments text

theorem valueGiven_void : ValueGiven arguments .void := by
  intro text same
  cases same

theorem valueGiven_value (given : IsGiven arguments text) : ValueGiven arguments (.value text) := by
  intro other same
  cases same
  exact given

theorem valueGiven_attachedValue (given : IsGiven arguments text) :
    ValueGiven arguments (attachedValue text) := by
  unfold attachedValue
  split
  · exact valueGiven_void
  · exact valueGiven_value given

/-- What the taking of one option keeps of the options and the counters, a whole reading keeps.
Arguments that no option takes are only put aside. -/
theorem Reading.takeAll_keeps (keeps : Options → Option (OptionValue String) → Prop)
    (step : ∀ (state next : Reading) key value, ValueGiven arguments value →
      state.take key value = .ok next → keeps state.options state.counters →
        keeps next.options next.counters)
    (given : AllGiven arguments classified) (done : state.takeAll classified = .ok final)
    (start : keeps state.options state.counters) : keeps final.options final.counters := by
  fun_induction Reading.takeAll state classified with
  | case1 state =>
    cases done
    exact start
  | case2 => cases done
  | case3 state argument key takes value rest next taken ih =>
    -- The value is the argument behind the option.
    rw [AllGiven, List.forall_mem_cons, List.forall_mem_cons] at given
    exact ih given.2.2 done (step state next key _ (valueGiven_value given.2.1.1) taken start)
  | case4 => cases done
  | case5 => cases done
  | case6 state argument key rest takes next taken ih =>
    rw [AllGiven, List.forall_mem_cons] at given
    exact ih given.2 done (step state next key _ valueGiven_void taken start)
  | case7 => cases done
  | case8 state argument key text rest next taken ih =>
    -- The value is attached to the option, or there is none.
    rw [AllGiven, List.forall_mem_cons] at given
    refine ih given.2 done ?_
    split at taken
    · exact step state next key _ (valueGiven_attachedValue (given.1.2 key text rfl)) taken start
    · rw [takeAttached] at taken
      split at taken
      · exact step state next key _ valueGiven_void taken start
      · cases taken
  | case9 state argument kind rest bare attached ih =>
    rw [AllGiven, List.forall_mem_cons] at given
    exact ih given.2 done start

/-- The options that are accepted are those of a whole reading, with the counters among them. -/
theorem exists_takeAll_of_parse (accepted : parse arguments = .ok options) :
    ∃ classified final counters, AllGiven arguments classified ∧
      Reading.start.takeAll classified = .ok final ∧ final.counters = some counters ∧
      options = { final.options with counters := counters } := by
  unfold parse at accepted
  split at accepted
  · cases accepted
  rename_i classified known
  split at accepted
  · cases accepted
  rename_i final done
  split at accepted
  · cases accepted
  rename_i counters required
  split at accepted
  · cases accepted
    exact ⟨classified, final, counters, allGiven_of_classifyAll known, done, required, rfl⟩
  · cases accepted

/-! ### The level and the paths -/

theorem mem_logLevels_of_chosenLevel {value : OptionValue String} {name : String}
    (chosen : chosenLevel value = .ok (.value name)) : name ∈ logLevels := by
  cases value with
  | void => cases chosen
  | value text =>
    rw [chosenLevel] at chosen
    split at chosen
    · rename_i listed
      cases chosen
      exact List.contains_iff_mem.mp listed
    · cases chosen

/-- The taking of one option leaves the level as it is, or chooses it. -/
theorem Reading.logLevel_of_take {next : Reading} {value : OptionValue String}
    (taken : state.take key value = .ok next) :
    next.options.logLevel = state.options.logLevel ∨
      chosenLevel value = .ok next.options.logLevel := by
  cases key with
  | logLevel =>
    obtain ⟨level, chosen, rfl⟩ := exists_of_map_eq_ok taken
    exact Or.inr chosen
  | deviceId =>
    obtain ⟨device, -, rfl⟩ := exists_of_map_eq_ok taken
    exact Or.inl rfl
  | help => cases taken
  | counters | metadata | root | outputDir | inspect =>
    obtain rfl := Except.ok.inj taken
    exact Or.inl rfl

/-- The level among the options is one of the levels, if there is one. -/
theorem mem_logLevels_of_parse {name : String} (accepted : parse arguments = .ok options)
    (level : options.logLevel = .value name) : name ∈ logLevels := by
  obtain ⟨classified, final, counters, given, done, -, rfl⟩ := exists_takeAll_of_parse accepted
  refine Reading.takeAll_keeps
    (fun options _ => ∀ name, options.logLevel = .value name → name ∈ logLevels) ?_ given done ?_
    name level
  · intro state next key value _ taken kept name same
    rcases Reading.logLevel_of_take taken with unchanged | chosen
    · exact kept name (unchanged ▸ same)
    · exact mem_logLevels_of_chosenLevel (same ▸ chosen)
  · intro name same
    cases same
    decide

/-- The options that have been read, or the counters that are read with them, hold a path. -/
def Reads (options : Options) (counters : Option (OptionValue String)) (path : String) : Prop :=
  options.Names path ∨ counters = some (.value path)

/-- The taking of one option adds no path but its value. -/
theorem Reading.reads_of_take {next : Reading} {value : OptionValue String} {path : String}
    (taken : state.take key value = .ok next) (read : Reads next.options next.counters path) :
    Reads state.options state.counters path ∨ value = .value path := by
  unfold Reads Options.Names at read ⊢
  cases key with
  | logLevel | deviceId =>
    obtain ⟨setting, -, rfl⟩ := exists_of_map_eq_ok taken
    exact Or.inl read
  | help => cases taken
  | inspect =>
    obtain rfl := Except.ok.inj taken
    exact Or.inl read
  | counters | metadata | root | outputDir =>
    obtain rfl := Except.ok.inj taken
    simp only [Option.some.injEq] at read
    grind

/-- Every path among the options is the end of an argument. -/
theorem isGiven_of_parse {path : String} (accepted : parse arguments = .ok options)
    (named : options.Names path) : IsGiven arguments path := by
  obtain ⟨classified, final, counters, given, done, required, rfl⟩ :=
    exists_takeAll_of_parse accepted
  have kept : ∀ path, Reads final.options final.counters path → IsGiven arguments path := by
    refine Reading.takeAll_keeps
      (fun options counters => ∀ path, Reads options counters path → IsGiven arguments path) ?_
      given done ?_
    · intro state next key value valueGiven taken kept path read
      rcases Reading.reads_of_take taken read with before | same
      · exact kept path before
      · exact valueGiven path same
    · rintro path ((same | same | same | same) | same) <;> cases same
  refine kept path ?_
  rcases named with same | others
  · exact Or.inr (same ▸ required)
  · exact Or.inl (Or.inr others)

/-- A character that is in no argument is in no path among the options. -/
theorem notMem_of_parse {path : String} {c : Char} (accepted : parse arguments = .ok options)
    (absent : ∀ argument ∈ arguments, c ∉ argument.toList) (named : options.Names path) :
    c ∉ path.toList := by
  obtain ⟨argument, listed, ending⟩ := isGiven_of_parse accepted named
  exact fun member => absent argument listed (ending.subset member)

end CommandLine

end CounterTrace
