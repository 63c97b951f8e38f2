import Chip8.Text.Fixed
import Chip8.Text.UpperCase

/-!
# Log lines

A logger prints the messages whose level reaches its threshold, one line each: time since it was
made, level, its name, message. A level is any text, in any case; one that is not known ranks as
information.
-/

namespace Chip8

/-- The known levels, from the least to the most severe. -/
inductive Level where
  | debug
  | info
  | warning
  | error
  | critical
deriving DecidableEq, Repr

namespace Level

def name : Level → String
  | debug => "DEBUG"
  | info => "INFO"
  | warning => "WARNING"
  | error => "ERROR"
  | critical => "CRITICAL"

def all : List Level := [debug, info, warning, error, critical]

/-- The level of a name in upper case. -/
def ofName? (name : String) : Option Level :=
  all.find? (·.name == name)

/-- Severity: a higher number is more severe. -/
def severity : Level → Nat
  | debug => 0
  | info => 1
  | warning => 2
  | error => 3
  | critical => 4

/-- The severity of a level given by name, in any case. -/
def severityOf (name : String) : Nat :=
  ((ofName? (Text.upper name)).getD info).severity

/-- What a terminal needs to hear to write in the colour of a level. -/
def colour : Level → String
  | debug => "\x1b[36m"
  | info => "\x1b[32m"
  | warning => "\x1b[33m"
  | error => "\x1b[31m"
  | critical => "\x1b[35m"

/-- What a terminal needs to hear to end a colour. -/
def plain : String := "\x1b[0m"

end Level

structure Logger where
  name : String
  /-- The level from which on messages are printed, by name. -/
  threshold : String
  /-- Colour the level, on a terminal. -/
  colours : Bool
  /-- Put the time in front. -/
  timestamps : Bool
  /-- Whether the lines go to a terminal. -/
  terminal : Bool
  /-- The time at which the logger was made, in seconds. -/
  start : Float

namespace Logger

/-- Whether messages of a level are printed. -/
def isEnabledFor (logger : Logger) (level : String) : Bool :=
  Level.severityOf logger.threshold ≤ Level.severityOf level

/-- The time that a line shows. -/
def timestamp (logger : Logger) (now : Float) : String :=
  if logger.timestamps then
    "[" ++ Text.alignRight 8 ' ' (Text.twoPlaces (now - logger.start)) ++ "s]"
  else ""

/-- The level as a line shows it. -/
def tag (logger : Logger) (level : String) : String :=
  let shown := Text.upper level
  let text := "[" ++ Text.alignRight 8 ' ' shown ++ "]"
  if logger.colours && logger.terminal then
    ((Level.ofName? shown).map Level.colour).getD "" ++ text ++ Level.plain
  else text

/-- A line without its end. -/
def format (logger : Logger) (now : Float) (level message : String) : String :=
  logger.timestamp now ++ logger.tag level ++ "[" ++ logger.name ++ "] " ++ message

/-- What is printed for a message: a line, or nothing. -/
def log (logger : Logger) (now : Float) (level message : String) : String :=
  if logger.isEnabledFor level then logger.format now level message ++ "\n" else ""

end Logger

end Chip8
