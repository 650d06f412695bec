import CounterTrace.CommandLine.Arguments
import CounterTrace.CommandLine.Summary
import CounterTrace.CommandLine.Usage
import CounterTrace.Logger

/-!
# The program

One run of the program: its arguments decide between a generation and an inspection, its result is
printed, and its messages go through the logger to the error stream. Errors of the inputs end the
run with a line and an exit status; any other failure is passed on. Behind the line about a settings
file with issues the program describes each of them; these lines are left out.

It is assumed that printing and writing cannot fail: the output streams can encode every text, they
stay open, and there is room for the script once its place has been opened.

## Main definitions

* `Terminal` — which of the two output streams are terminals
* `Run` — what a run leaves behind
* `CommandLine.run` — a run on a file system
-/

namespace CounterTrace

/-- Which of the two output streams are terminals and show colours. -/
structure Terminal where
  output : Bool
  errors : Bool
  deriving DecidableEq

/-- What a run leaves behind: its exit status or the failure that ended it, what it wrote to the two
output streams, the file system, and the logger. -/
structure Run where
  outcome : Except Failure Nat
  output : String
  errors : String
  files : FileSystem
  logger : Logger

/-- The request that the options make. -/
def Options.request (options : Options) : Request :=
  ⟨options.counters, options.metadata, options.device, options.root, options.outputDirectory⟩

namespace CommandLine

/-- Lines as text, each ended by a line feed. -/
def unlines (lines : List String) : String := String.join (lines.map (· ++ "\n"))

/-- What is printed about a failure, and how the run ends on it: an input error is printed, with the
first line of its text, and gives an exit status; any other failure is passed on. -/
def failed (terminal : Terminal) (failure : Failure) : Except Failure Nat × String :=
  if failure.isInputError then
    (.ok 1, unlines [Colour.red.wrap terminal.output ("Error loading inputs: " ++ failure.message)])
  else (.error failure, "")

variable [Numeral.SignRule]

/-- The run of an inspection. It writes no file. -/
def runInspection (files : FileSystem) (logger : Logger) (terminal : Terminal) (request : Request) :
    Run :=
  match Workflow.inspect files request with
  | .ok inspection => ⟨.ok 0, unlines (summary terminal.output inspection), "", files, logger⟩
  | .error failure =>
    let (outcome, output) := failed terminal failure
    ⟨outcome, output, "", files, logger⟩

/-- The run of a generation. -/
def runGeneration (files : FileSystem) (logger : Logger) (terminal : Terminal) (request : Request) :
    Run :=
  let report := Workflow.generate files request
  let errors := logger.emitAll report.messages
  match report.result with
  | .error failure =>
    let (outcome, output) := failed terminal failure
    ⟨outcome, output, errors, files, logger⟩
  | .ok (generation, after) =>
    if generation.generated then
      ⟨.ok 0, unlines [Colour.green.wrap terminal.output ("CT file written: " ++ generation.path)],
        errors, after, logger⟩
    else
      ⟨.ok 1, unlines [Colour.yellow.wrap terminal.output "No CT file generated."], errors, after,
        logger⟩

/-- Sets the logger up with the level that the options ask for. Where no level is given, the logger
gets its handler all the same. -/
def setUpLogger (logger : Logger) (terminal : Terminal) :
    OptionValue String → Logger × Except Failure Unit
  | .value name => logger.setUp terminal.errors name none
  | .void => (logger.withHandler terminal.errors none, .error .levelMissing)

/-- A run of the program with some arguments. -/
def run (files : FileSystem) (logger : Logger) (terminal : Terminal) (arguments : List String) :
    Run :=
  match parse arguments with
  | .error .help => ⟨.ok 0, help, "", files, logger⟩
  | .error (.error text) => ⟨.ok 2, "", usageError text, files, logger⟩
  | .ok options =>
    match setUpLogger logger terminal options.logLevel with
    | (logger, .error failure) => ⟨.error failure, "", "", files, logger⟩
    | (logger, .ok ()) =>
      let request := options.request
      if options.inspect then runInspection files logger terminal request
      else runGeneration files logger terminal request

end CommandLine

end CounterTrace
