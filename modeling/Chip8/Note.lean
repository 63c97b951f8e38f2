import Chip8.Instruction.Assembly
import Chip8.Failure
import Chip8.Log

/-!
# Notes

What a machine has to tell while it works: programs loaded, instructions about to be executed,
errors and beeps, and what a beep handler writes. A machine only collects notes; a logger decides
which of them become lines, and how the lines look.
-/

namespace Chip8

inductive Note where
  /-- A program of so many bytes was loaded from a source. -/
  | programLoaded (source : String) (size : Nat)
  /-- The word at an address is about to be executed. -/
  | instruction (pc word : UInt16)
  | stopped (error : MachineError)
  /-- The sound timer has run out. -/
  | beep
  /-- A beep handler was called and wrote a text of its own. -/
  | handlerCalled (text : String)
deriving DecidableEq, Repr

namespace Logger

/-! ## Lines about machines -/

def programLoaded (logger : Logger) (now : Float) (source : String) (size : Int) : String :=
  logger.log now Level.info.name ("Loaded " ++ source ++ " (" ++ Text.decimal size ++ " bytes)")

/-- Address, word and assembly text of an instruction. -/
def instruction (logger : Logger) (now : Float) (pc word : Int) (assembly : String) : String :=
  logger.log now Level.debug.name
    ("0x" ++ Text.hex 3 pc ++ ": " ++ Text.hex 4 word ++ "  " ++ assembly)

def stopped (logger : Logger) (now : Float) (error : MachineError) : String :=
  logger.log now Level.critical.name error.report

def beep (logger : Logger) (now : Float) : String :=
  logger.log now Level.info.name "BEEP"

/-! ## Notes as lines -/

/-- What is written for a note. What a handler writes does not pass through the logger. -/
def print (logger : Logger) (now : Float) : Note → String
  | .programLoaded source size => logger.programLoaded now source size
  | .instruction pc word => logger.instruction now pc.toNat word.toNat (disassemble word.toNat)
  | .stopped error => logger.stopped now error
  | .beep => logger.beep now
  | .handlerCalled text => text

/-- What is written for several notes. -/
def printAll (logger : Logger) (now : Float) (notes : List Note) : String :=
  String.join (notes.map (logger.print now))

variable (logger : Logger) (now : Float)

theorem printAll_cons (note : Note) (rest : List Note) :
    logger.printAll now (note :: rest) = logger.print now note ++ logger.printAll now rest := by
  rw [printAll, List.map_cons, String.join_cons, printAll]

theorem printAll_append (first second : List Note) :
    logger.printAll now (first ++ second) =
      logger.printAll now first ++ logger.printAll now second := by
  rw [printAll, List.map_append, String.join_append, printAll, printAll]

end Logger

end Chip8
