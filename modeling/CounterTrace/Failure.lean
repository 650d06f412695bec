import CounterTrace.FileSystem.Access
import CounterTrace.Settings.Issue
import CounterTrace.Text.Numeral
import CounterTrace.Text.Utf8

/-!
# Failures

Everything that can end a run early, by its cause. A settings file that cannot be opened or is not
valid is an input error, which the command line reports; the other causes end the run as they are.
Numbers have no fixed width, but they have limits: on the digits that are read or written, and on
the memory that one number may take.

## Main definitions

* `Failure` — the causes
* `Failure.message` — their texts
* `Failure.isInputError` — whether the command line reports it as an error of the inputs
-/

namespace CounterTrace

/-- The two kinds of settings files. -/
inductive SettingsKind where
  | counters
  | metadata
  deriving DecidableEq

/-- The name under which the issues of a settings file are reported. -/
def SettingsKind.title : SettingsKind → String
  | .counters => "StaticInfo"
  | .metadata => "AIEConfigMetadata"

/-- Why a run ends early. A path, a device or a level is missing where an option was given without
a value. -/
inductive Failure where
  | access (error : AccessError)
  | undecodable (fault : Utf8.Fault)
  | invalid (kind : SettingsKind) (issues : List Issue)
  | numeralTooLong (digits : Nat)
  | numberTooLong
  | negativeShift
  | numberTooWide
  | outOfMemory
  | unknownLevel (name : String)
  | unusableLevel (value : String)
  | pathMissing
  | deviceMissing
  | levelMissing
  deriving DecidableEq

namespace Failure

/-- The text of a decoding fault: the byte if it stands alone, otherwise the span of bytes. -/
def faultText (fault : Utf8.Fault) : String :=
  "'utf-8' codec can't decode " ++
    (if fault.length ≤ 1 then
      "byte 0x" ++ String.ofList (Text.hexDigits 2 fault.first.toNat) ++ " in position " ++
        Numeral.text fault.position
    else
      "bytes in position " ++ Numeral.text fault.position ++ "-" ++
        Numeral.text (fault.position + fault.length - 1)) ++
    ": " ++ fault.flaw.reason

/-- The text about a number with more digits than are read or written; `detail` says how many. -/
def digitLimitText (detail : String) : String :=
  "Exceeds the limit (" ++ Numeral.text Numeral.maxDigits ++
    " digits) for integer string conversion" ++ detail ++
    "; use sys.set_int_max_str_digits() to increase the limit"

/-- The text of a failure. For issues this is only the first line of it, which says how many there
are; the lines behind it, which describe each of them, are left out. -/
def message : Failure → String
  | .access error => error.message
  | .undecodable fault => faultText fault
  | .invalid kind issues =>
    Numeral.text issues.length ++
      (if issues.length = 1 then " validation error for " else " validation errors for ") ++
      kind.title
  | .numeralTooLong digits => digitLimitText (": value has " ++ Numeral.text digits ++ " digits")
  | .numberTooLong => digitLimitText ""
  | .negativeShift => "negative shift count"
  | .numberTooWide => "too many digits in integer"
  | .outOfMemory => ""
  | .unknownLevel name => "Unknown level: " ++ Text.quoted name
  | .unusableLevel value => "Level not an integer or a valid string: " ++ value
  | .pathMissing => "expected str, bytes or os.PathLike object, not list"
  | .deviceMissing => "unhashable type: 'list'"
  | .levelMissing => "'list' object has no attribute 'upper'"

/-- Whether the failure is a refused file or an invalid settings file. -/
def isInputError : Failure → Bool
  | .access (.refused _ _) => true
  | .invalid _ _ => true
  | _ => false

/-- Reads a run of digits; a run that is too long is a failure. -/
def readNumeral (digits : List Char) : Except Failure Nat :=
  match Numeral.read digits with
  | .ok n => .ok n
  | .error length => .error (.numeralTooLong length)

end Failure

end CounterTrace
