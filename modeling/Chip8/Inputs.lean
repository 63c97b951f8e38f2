import Chip8.Cycle
import Chip8.Failure
import Chip8.Nested

/-!
# What a host does to a machine

Timer ticks, beeps, keys and frames; reading and writing memory; loading a program; and asking for
the error behind a fault. Addresses that a host gives are checked before memory is touched.
-/

namespace Chip8

/-- One step of a timer towards zero. -/
def countDown (timer : UInt8) : UInt8 :=
  if 0 < timer then timer - 1 else timer

/-- A screen as it is handed out: 2048 pixels row by row, pixel `(x, y)` at `x + 64 * y`. -/
abbrev Frame := Vector Bool 2048

/-- The bytes that integers stand for. -/
def bytesOfInts : List Int → Except Failure (List UInt8)
  | [] => .ok []
  | value :: rest =>
    if 0 ≤ value ∧ value < 256 then
      (bytesOfInts rest).map (UInt8.ofNat value.toNat :: ·)
    else .error .notByte

namespace State

/-! ## Instructions and addresses as numbers -/

/-- Executes the lowest sixteen bits of a number, which must be a signed 32-bit number. -/
def executeInt (state : State) (number : Int) : Except Failure State :=
  if -0x80000000 ≤ number ∧ number < 0x80000000 then .ok (state.execute (UInt16.ofInt number))
  else .error .overflow

/-- Stores a return address, which must be a 16-bit number. -/
def pushInt (state : State) (number : Int) : Except Failure State :=
  if 0 ≤ number ∧ number < 0x10000 then
    .ok { state with stack := state.stack.push (UInt16.ofInt number) }
  else .error .overflow

/-! ## Timers, keys and frames -/

/-- One tick of both timers. A beep falls due when the sound timer goes from one to zero. -/
def tick (state : State) : State :=
  { state with
    delayTimer := countDown state.delayTimer
    soundTimer := countDown state.soundTimer
    beep := state.beep || state.soundTimer == 1 }

/-- As many ticks as are asked for. -/
def ticks : Nat → State → State
  | 0, state => state
  | count + 1, state => ticks count state.tick

/-- Whether a beep is due; asking clears it. -/
def takeBeep (state : State) : State × Bool :=
  ({ state with beep := false }, state.beep)

/-- Replaces the held keys. -/
def setKeys (state : State) (keypad : Keypad) : State :=
  { state with keypad }

/-- The most levels of nesting at which key states are looked at. -/
def levelLimit : Nat := 64

/-- Replaces the held keys by sixteen states in one row. -/
def setKeypad (state : State) (keys : Nested Bool) : Except Failure State :=
  let (shape, even) := keys.shape
  if even then
    if sized : shape = [16] ∧ keys.values.length = 16 then
      .ok (state.setKeys ⟨⟨keys.values.toArray, by simpa using sized.2⟩⟩)
    else if levelLimit < shape.length then .error (.tooManyLevels levelLimit)
    else .error (.keyShape shape)
  -- parts that agree on every level looked at differ deeper down only
  else if levelLimit ≤ shape.length then .error (.tooManyLevels levelLimit)
  else .error (.unevenShape shape)

/-- The screen, if it was drawn on since it was last handed out. -/
def takeFrame (state : State) : State × Option Frame :=
  if state.dirty then ({ state with dirty := false }, some state.screen.cells)
  else (state, none)

/-! ## Memory -/

/-- Fails for addresses that are not all in memory. -/
def checkRange (address : Int) (length : Nat) : Except Failure Unit :=
  if address < 0 ∨ 4096 < address + length then
    .error (.machine (.outsideMemory address length))
  else .ok ()

def readByte (state : State) (address : Int) : Except Failure UInt8 := do
  checkRange address 1
  return state.memory.read address.toNat

/-- Writes bytes from an address on. -/
def writeBytes (state : State) (address : Int) (data : List UInt8) : Except Failure State := do
  checkRange address data.length
  return { state with memory := state.memory.writeAll address.toNat data }

/-- Writes the lowest eight bits of a number. -/
def writeByte (state : State) (address : Int) (value : Int) : Except Failure State := do
  checkRange address 1
  return { state with memory := state.memory.write address.toNat (UInt8.ofInt value) }

/-- Places a program where execution begins. -/
def loadProgram (state : State) (program : List UInt8) : Except Failure State :=
  if program.isEmpty then .error (.machine .emptyProgram)
  else if Layout.programCapacity < program.length then
    .error (.machine (.programTooLong program.length Layout.programCapacity))
  else state.writeBytes Layout.programStart program

/-! ## Errors -/

/-- The error behind the fault of a machine that has stopped. -/
def error? (state : State) : Option MachineError :=
  state.fault.map fun fault => .ofFault fault state.pc state.opcode

/-- Fails if the machine has stopped. -/
def checkFault (state : State) : Except Failure Unit :=
  match state.error? with
  | some error => .error (.machine error)
  | none => .ok ()

end State

end Chip8
