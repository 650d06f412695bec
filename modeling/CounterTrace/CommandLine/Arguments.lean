import CounterTrace.CommandLine.Number
import CounterTrace.Request
import CounterTrace.Text.Quoted

/-!
# Arguments

The arguments are first told apart, each by itself: options, plain arguments, and the separator
behind which everything is plain. A long option may be shortened as far as it stays unambiguous and
may carry its value behind an equals sign. Then they are taken from left to right; the first error,
or a wish for help, ends it. Plain arguments that no option takes are an error in the end.

The separator behind an equals sign stands for no value here. Patch releases of the argument parser
differ in this: some drop the separator there, as here, and some take it for the value.

## Main definitions

* `OptionKey`, `Options` — the options, and the choice that they make
* `CommandLine.classify` — what an argument is
* `CommandLine.parse` — the options of a whole command line
-/

namespace CounterTrace

/-- The options of the command line. -/
inductive OptionKey where
  | help
  | counters
  | metadata
  | deviceId
  | root
  | outputDir
  | logLevel
  | inspect
  deriving DecidableEq

/-- What the command line asks for. -/
structure Options where
  counters : OptionValue String
  metadata : Option (OptionValue String)
  device : OptionValue Int
  root : Option (OptionValue String)
  outputDirectory : Option (OptionValue String)
  logLevel : OptionValue String
  inspect : Bool
  deriving DecidableEq

namespace CommandLine

/-- The argument behind which everything is plain. -/
def separator : String := "--"

/-- The spellings of the options, in the order in which they are explained. -/
def spellings : List (String × OptionKey) :=
  [("-h", .help), ("--help", .help), ("--counters", .counters), ("--metadata", .metadata),
    ("--device-id", .deviceId), ("--root", .root), ("--output-dir", .outputDir),
    ("--log-level", .logLevel), ("--inspect", .inspect)]

/-- The spellings of one option, as an error names it. -/
def displayName (key : OptionKey) : String :=
  String.intercalate "/" ((spellings.filter (·.2 == key)).map (·.1))

/-- Whether an option takes a value. -/
def takesValue : OptionKey → Bool
  | .help => false
  | .inspect => false
  | _ => true

/-- The levels that can be chosen. -/
def logLevels : List String := ["DEBUG", "INFO", "WARNING"]

/-- Why no run follows from the arguments: help was asked for, or they are in error. -/
inductive Stop where
  | help
  | error (text : String)
  deriving DecidableEq

/-- What an argument is. A text may be attached to an option: behind an equals sign, or directly to
a one-letter option. -/
inductive ArgumentKind where
  | plain
  | separator
  | unknown
  | option (key : OptionKey) (attached : Option String)
  deriving DecidableEq

/-- An argument before and after its first equals sign. -/
def splitEquals (argument : String) : String × Option String :=
  let text := argument.toList
  (String.ofList (text.takeWhile (· != '=')),
    match text.dropWhile (· != '=') with
    | [] => none
    | _ :: value => some (String.ofList value))

/-- The options that an argument may be short for, each with its spelling and what is attached. -/
def candidates (argument : String) : List (String × ArgumentKind) :=
  let text := argument.toList
  if text.take 2 == ['-', '-'] then
    let (name, value) := splitEquals argument
    (spellings.filter fun entry => name.toList.isPrefixOf entry.1.toList).map fun entry =>
      (entry.1, .option entry.2 value)
  else
    spellings.filterMap fun entry =>
      if entry.1.toList == text.take 2 then
        some (entry.1, .option entry.2 (some (String.ofList (text.drop 2))))
      else if text.isPrefixOf entry.1.toList then some (entry.1, .option entry.2 none)
      else none

/-- What an argument with a leading dash is, if no option has exactly its spelling. -/
def classifyShortened (argument : String) : Except Stop ArgumentKind :=
  match candidates argument with
  | [(_, kind)] => .ok kind
  | [] =>
    if looksNegative argument || argument.toList.contains ' ' then .ok .plain else .ok .unknown
  | several =>
    .error (.error ("ambiguous option: " ++ argument ++ " could match " ++
      String.intercalate ", " (several.map (·.1))))

/-- What an argument before the separator is. -/
def classify (argument : String) : Except Stop ArgumentKind :=
  if argument.toList.head? != some '-' then .ok .plain
  else if argument == separator then .ok .separator
  else
    match spellings.lookup argument with
    | some key => .ok (.option key none)
    | none =>
      if argument == "-" then .ok .plain
      else
        match splitEquals argument with
        | (name, some value) =>
          match spellings.lookup name with
          | some key => .ok (.option key (some value))
          | none => classifyShortened argument
        | (_, none) => classifyShortened argument

/-- All arguments with what they are. -/
def classifyAll : List String → Except Stop (List (String × ArgumentKind))
  | [] => .ok []
  | argument :: rest =>
    match classify argument with
    | .error stop => .error stop
    | .ok .separator => .ok ((argument, .separator) :: rest.map fun plain => (plain, .plain))
    | .ok kind => (classifyAll rest).map ((argument, kind) :: ·)

/-- The options while they are read: the counters may still be missing, and the arguments that no
option has taken are kept. -/
structure Reading where
  counters : Option (OptionValue String)
  options : Options
  extras : List String

/-- Nothing read: every option at its default. -/
def Reading.start : Reading :=
  ⟨none, ⟨.void, none, .value 0, none, none, .value "INFO", false⟩, []⟩

/-- The error of one option. -/
def optionError (key : OptionKey) (text : String) : Stop :=
  .error ("argument " ++ displayName key ++ ": " ++ text)

/-- The device that a value names. -/
def deviceOf : OptionValue String → Except Stop (OptionValue Int)
  | .void => .ok .void
  | .value text =>
    match number? text with
    | some device => .ok (.value device)
    | none => .error (optionError .deviceId ("invalid int value: " ++ Text.quoted text))

/-- The level that a value names, which must be one of those that can be chosen. -/
def chosenLevel : OptionValue String → Except Stop (OptionValue String)
  | .void => .ok .void
  | .value text =>
    if logLevels.contains text then .ok (.value text)
    else
      .error (optionError .logLevel ("invalid choice: " ++ Text.quoted text ++ " (choose from " ++
        String.intercalate ", " (logLevels.map Text.quoted) ++ ")"))

/-- Takes an option with what it was given. -/
def Reading.take (state : Reading) (key : OptionKey) (given : OptionValue String) :
    Except Stop Reading :=
  match key with
  | .counters => .ok { state with counters := some given }
  | .metadata => .ok { state with options := { state.options with metadata := some given } }
  | .root => .ok { state with options := { state.options with root := some given } }
  | .outputDir =>
    .ok { state with options := { state.options with outputDirectory := some given } }
  | .deviceId =>
    (deviceOf given).map fun device =>
      { state with options := { state.options with device := device } }
  | .logLevel =>
    (chosenLevel given).map fun level =>
      { state with options := { state.options with logLevel := level } }
  | .help => .error .help
  | .inspect => .ok { state with options := { state.options with inspect := true } }

/-- What an option with a value is given by the text behind the equals sign: the separator stands
for no value. -/
def attachedValue (text : String) : OptionValue String :=
  if text == separator then .void else .value text

/-- What is left of the text attached to an option without a value, after repetitions of its
letter. A long option has no letter. -/
def leftOver (argument text : String) : List Char :=
  match argument.toList with
  | '-' :: '-' :: _ => text.toList
  | _ :: letter :: _ => text.toList.dropWhile (· == letter)
  | _ => text.toList

/-- Takes an option without a value to which a text is attached. The text must repeat the letter of
the option, at least once, and nothing else. -/
def Reading.takeAttached (state : Reading) (argument : String) (key : OptionKey) (text : String) :
    Except Stop Reading :=
  let rest := leftOver argument text
  if rest.isEmpty && !text.isEmpty then state.take key .void
  else
    .error (optionError key ("ignored explicit argument " ++ Text.quoted (String.ofList rest)))

/-- Takes the arguments from left to right. -/
def Reading.takeAll (state : Reading) : List (String × ArgumentKind) → Except Stop Reading
  | [] => .ok state
  | (_, .option key none) :: rest =>
    if takesValue key then
      match rest with
      | (value, .plain) :: rest =>
        match state.take key (.value value) with
        | .error stop => .error stop
        | .ok next => next.takeAll rest
      | _ => .error (optionError key "expected one argument")
    else
      match state.take key .void with
      | .error stop => .error stop
      | .ok next => next.takeAll rest
  | (argument, .option key (some text)) :: rest =>
    match if takesValue key then state.take key (attachedValue text)
        else state.takeAttached argument key text with
    | .error stop => .error stop
    | .ok next => next.takeAll rest
  | (argument, _) :: rest => ({ state with extras := state.extras ++ [argument] }).takeAll rest

/-- The options that the arguments ask for. -/
def parse (arguments : List String) : Except Stop Options :=
  match classifyAll arguments with
  | .error stop => .error stop
  | .ok classified =>
    match Reading.start.takeAll classified with
    | .error stop => .error stop
    | .ok state =>
      match state.counters with
      | none => .error (.error "the following arguments are required: --counters")
      | some counters =>
        if state.extras.isEmpty then .ok { state.options with counters := counters }
        else
          .error (.error ("unrecognized arguments: " ++ String.intercalate " " state.extras))

end CommandLine

end CounterTrace
