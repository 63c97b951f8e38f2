import Chip8.CallStack
import Chip8.Fault
import Chip8.Keypad
import Chip8.Memory
import Chip8.Random
import Chip8.Registers
import Chip8.Screen

/-!
# State of a machine

Everything an instruction can read or change, the small changes that instructions are made of, and
the state before the first cycle.
-/

namespace Chip8

structure State where
  /-- The key of the random numbers still to come. -/
  random : Random.Pair
  memory : Memory
  /-- The program counter. -/
  pc : UInt16
  /-- The register `I`, an address. -/
  index : UInt16
  registers : Registers
  stack : CallStack
  delayTimer : UInt8
  soundTimer : UInt8
  /-- A beep is due: the sound timer ran out and nobody asked since. -/
  beep : Bool
  keypad : Keypad
  /-- The keys held when a wait for a key last looked. -/
  latch : Keypad
  /-- The machine waits for a key. -/
  waiting : Bool
  /-- The number of the register that receives the awaited key. -/
  keyRegister : UInt8
  screen : Screen
  /-- The screen was drawn on since it was last shown. -/
  dirty : Bool
  /-- The word that was executed last. -/
  opcode : UInt16
  /-- Why the machine is halted, if it is. -/
  fault : Option Fault
deriving DecidableEq

namespace State

/-- The state before the first cycle, with the font in memory. -/
def fresh (random : Random.Pair) : State where
  random
  memory := Memory.fresh
  pc := 0x200
  index := 0
  registers := Registers.zero
  stack := CallStack.empty
  delayTimer := 0
  soundTimer := 0
  beep := false
  keypad := Keypad.released
  latch := Keypad.released
  waiting := false
  keyRegister := 0
  screen := Screen.blank
  dirty := false
  opcode := 0
  fault := none

/-- Moves the program counter on; it wraps after 65535. -/
def advance (state : State) (distance : UInt16) : State :=
  { state with pc := state.pc + distance }

/-- Goes on with the next instruction. -/
def next (state : State) : State :=
  state.advance 2

/-- Goes on with the next instruction, or with the one behind it. -/
def skipIf (state : State) (condition : Bool) : State :=
  state.advance (if condition then 4 else 2)

def setRegister (state : State) (register : Fin 16) (value : UInt8) : State :=
  { state with registers := state.registers.set register value }

/-- Stops the machine. -/
def halt (state : State) (fault : Fault) : State :=
  { state with fault := some fault }

/-- Whether the machine has stopped. -/
def halted (state : State) : Bool :=
  state.fault.isSome

end State

end Chip8
