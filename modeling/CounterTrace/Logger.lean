import CounterTrace.Message
import CounterTrace.Text.Colour

/-!
# The logger

Messages reach the error stream through a logger. It has a threshold and, once it has been set up, a
handler that writes each message on a line behind its level, in the colour of the level if the
handler was made for a terminal. Setting it up again changes the threshold alone.

## Main definitions

* `Logger.formatLine` — a message behind the name of its level
* `Logger` — the logger
* `Logger.withHandler`, `Logger.setLevel`, `Logger.setUp` — setting it up with the name of a level
* `Logger.emit` — what a message adds to the error stream
-/

namespace CounterTrace

/-- The logger of a process: whether its handler writes in colour, if it has a handler, and its
threshold, where zero means that none is set. -/
structure Logger where
  handler : Option Bool
  level : Int
  deriving DecidableEq

namespace Logger

/-- The logger before it is set up. -/
def fresh : Logger := ⟨none, 0⟩

/-- The name of a level. -/
def levelName (level : Int) : String :=
  if level = 0 then "NOTSET"
  else if level = 10 then "DEBUG"
  else if level = 20 then "INFO"
  else if level = 30 then "WARNING"
  else if level = 40 then "ERROR"
  else if level = 50 then "CRITICAL"
  else "Level " ++ Numeral.text level

/-- The colour of a level; other levels have none. -/
def levelColour (level : Int) : Option Colour :=
  if level = 10 then some .dim
  else if level = 20 then some .cyan
  else if level = 30 then some .yellow
  else if level = 40 then some .red
  else if level = 50 then some .brightMagenta
  else none

/-- A message behind the name of its level. In colour, the line ends with the switch back to the
plain style even where the level has no colour. -/
def formatLine (coloured : Bool) (level : Int) (text : String) : String :=
  let line := "[" ++ levelName level ++ "] " ++ text
  if coloured then ((levelColour level).map Colour.code).getD "" ++ line ++ Colour.reset else line

/-- The capital form of a character, as far as it can contribute to the name of a level: ASCII
letters, and the few others whose capital form is made of ASCII letters. -/
def capitals (c : Char) : List Char :=
  match c with
  | 'ß' => ['S', 'S']
  | 'ı' => ['I']
  | 'ſ' => ['S']
  | 'ﬀ' => ['F', 'F']
  | 'ﬁ' => ['F', 'I']
  | 'ﬂ' => ['F', 'L']
  | 'ﬃ' => ['F', 'F', 'I']
  | 'ﬄ' => ['F', 'F', 'L']
  | 'ﬅ' => ['S', 'T']
  | 'ﬆ' => ['S', 'T']
  | _ => [c.toUpper]

/-- The named levels. -/
def namedLevels : List (String × Int) :=
  [("NOTSET", 0), ("DEBUG", 10), ("INFO", 20), ("WARNING", 30), ("WARN", 30), ("ERROR", 40),
    ("CRITICAL", 50), ("FATAL", 50)]

/-- The line layout, whose name is taken by no level. -/
def layout : String := "%(levelname)s:%(name)s:%(message)s"

/-- The table of line layouts in the three styles of placeholders, as text. Its name is taken by no
level either. -/
def layoutTable : String :=
  "\x7b'%': (<class 'logging.PercentStyle'>, '" ++ layout ++ "'), " ++
    "'\x7b': (<class 'logging.StrFormatStyle'>, " ++
    "'\x7blevelname\x7d:\x7bname\x7d:\x7bmessage\x7d'), " ++
    "'$': (<class 'logging.StringTemplateStyle'>, " ++
    "'$\x7blevelname\x7d:$\x7bname\x7d:$\x7bmessage\x7d')\x7d"

/-- The level that a name means in any letter case. A name that is not known means the level of
plain information, but the names of the line layout and of the table of layouts are refused. -/
def levelOf (name : String) : Except Failure Int :=
  let capital := String.ofList (name.toList.flatMap capitals)
  if capital == "BASIC_FORMAT" then .error (.unknownLevel layout)
  else if capital == "_STYLES" then .error (.unusableLevel layoutTable)
  else .ok ((namedLevels.lookup capital).getD 20)

/-- The logger with a handler: the one that it has, or else one in colour as asked for, or if the
error stream is a terminal. -/
def withHandler (logger : Logger) (isTerminal : Bool) (coloured : Option Bool) : Logger :=
  { logger with handler := some (logger.handler.getD (coloured.getD isTerminal)) }

/-- The logger with the threshold that a name means, or as it was where the name is refused. -/
def setLevel (logger : Logger) (name : String) : Logger × Except Failure Unit :=
  match levelOf name with
  | .error failure => (logger, .error failure)
  | .ok level => ({ logger with level := level }, .ok ())

/-- Sets the logger up: it gets a handler if it has none, and then its threshold. -/
def setUp (logger : Logger) (isTerminal : Bool) (name : String) (coloured : Option Bool) :
    Logger × Except Failure Unit :=
  (logger.withHandler isTerminal coloured).setLevel name

/-- The threshold in force: where none is set, warnings and worse pass. -/
def threshold (logger : Logger) : Int := if logger.level = 0 then 30 else logger.level

/-- What a message adds to the error stream. Without a handler, warnings and worse are written
bare. -/
def emit (logger : Logger) (message : Message) : String :=
  if message.severity.level < logger.threshold then ""
  else
    match logger.handler with
    | some coloured => formatLine coloured message.severity.level message.text ++ "\n"
    | none => if message.severity.level < 30 then "" else message.text ++ "\n"

/-- What messages add to the error stream, in order. -/
def emitAll (logger : Logger) (messages : List Message) : String :=
  String.join (messages.map logger.emit)

end Logger

end CounterTrace
