import Chip8.Arithmetic
import Chip8.Instruction.Form
import Chip8.Instruction.Operands
import Chip8.Sprite
import Chip8.State

/-!
# Execution of one instruction

An instruction first looks whether it may run at all (`Form.hazard?`); only then does it take effect
(`Form.effect`). A machine whose instruction may not run stops with everything but the fault and the
executed word as it was.
-/

namespace Chip8

namespace Form

/-- The fault for an access to `count` bytes from the index register on, if it leaves memory. -/
def reach? (state : State) (count : Nat) : Option Fault :=
  if 4096 < state.index.toNat + count then some .address else none

/-- The fault for a register that should hold a key number, if it does not. -/
def keyRange? (state : State) (register : Fin 16) : Option Fault :=
  if 15 < state.registers.get register then some .keypad else none

/-- Why an instruction may not run, if so. -/
def hazard? (form : Form) (operands : Operands) (state : State) : Option Fault :=
  match form with
  | ret => if state.stack.isEmpty then some .stackUnderflow else none
  | call => if state.stack.isFull then some .stackOverflow else none
  | draw => reach? state operands.n
  | skipPressed | skipReleased => keyRange? state operands.x
  | storeDecimal => reach? state 3
  | storeRegisters | loadRegisters => reach? state (operands.x + 1)
  | _ => none

/-- Combines two registers. The result is written before the flag, so the flag stays when the
first register is the flag register. -/
def combine (operation : Operation) (operands : Operands) (state : State) : State :=
  let a := state.registers.get operands.x
  let b := state.registers.get operands.y
  let written := state.setRegister operands.x (operation.result a b)
  match operation.flag? a b with
  | some value => (written.setRegister Layout.flagRegister value).next
  | none => written.next

/-- Whether the key whose number a register holds is held. -/
def keyHeld (state : State) (register : Fin 16) : Bool :=
  state.keypad.held ⟨(state.registers.get register).toNat % 16, by omega⟩

/-- Flips the pixels of a sprite; the flag tells whether one of them was on. -/
def drawSprite (operands : Operands) (state : State) : State :=
  let sprite := Sprite.mask state.memory state.index.toNat operands.n
    (state.registers.get operands.x).toNat (state.registers.get operands.y).toNat
  let collision := state.screen.overlaps sprite
  ({ state with screen := state.screen.flip sprite, dirty := true }
    |>.setRegister Layout.flagRegister (flag collision)).next

/-- The hundreds, tens and units of a byte. -/
def decimalDigits (value : UInt8) : List UInt8 :=
  [value / 100, value / 10 % 10, value % 10]

/-- The values of the registers up to `last`, in order. -/
def registersUpTo (state : State) (last : Fin 16) : List UInt8 :=
  (List.finRange 16).filterMap fun register =>
    if register ≤ last then some (state.registers.get register) else none

/-- The registers with those up to `last` replaced by the bytes at the index register. -/
def registersFromMemory (state : State) (last : Fin 16) : Registers :=
  Registers.ofFn fun register =>
    if register ≤ last then state.memory.read (state.index.toNat + register)
    else state.registers.get register

/-- What an instruction does when it may run. -/
def effect (form : Form) (operands : Operands) (state : State) : State :=
  let x := operands.x
  let vx := state.registers.get x
  let vy := state.registers.get operands.y
  match form with
  | clearScreen => { state with screen := Screen.blank, dirty := true }.next
  | ret => let (stack, address) := state.stack.pop; { state with stack, pc := address }
  | machineCall => state.next
  | jump => { state with pc := operands.address }
  | call => { state with stack := state.stack.push (state.pc + 2), pc := operands.address }
  | skipEqualByte => state.skipIf (vx == operands.byte)
  | skipUnequalByte => state.skipIf (vx != operands.byte)
  | skipEqual => state.skipIf (vx == vy)
  | setByte => (state.setRegister x operands.byte).next
  | addByte => (state.setRegister x (vx + operands.byte)).next
  | move => combine .move operands state
  | bitOr => combine .bitOr operands state
  | bitAnd => combine .bitAnd operands state
  | bitXor => combine .bitXor operands state
  | add => combine .add operands state
  | subtract => combine .subtract operands state
  | shiftRight => combine .shiftRight operands state
  | subtractFrom => combine .subtractFrom operands state
  | shiftLeft => combine .shiftLeft operands state
  | skipUnequal => state.skipIf (vx != vy)
  | setIndex => { state with index := operands.address }.next
  | jumpOffset => { state with pc := operands.address + (state.registers.get 0).toUInt16 }
  | random =>
    ({ state with random := Random.next state.random }
      |>.setRegister x (Random.byte state.random &&& operands.byte)).next
  | draw => drawSprite operands state
  | skipPressed => state.skipIf (keyHeld state x)
  | skipReleased => state.skipIf (!keyHeld state x)
  | readDelay => (state.setRegister x state.delayTimer).next
  | awaitKey => { state with
      waiting := true, keyRegister := UInt8.ofNat x, latch := state.keypad }
  | setDelay => { state with delayTimer := vx }.next
  | setSound => { state with soundTimer := vx }.next
  | addIndex => { state with index := state.index + vx.toUInt16 }.next
  | digitSprite => { state with index := 0x50 + vx.toUInt16 * 5 }.next
  | storeDecimal =>
    { state with memory := state.memory.writeAll state.index.toNat (decimalDigits vx) }.next
  | storeRegisters =>
    { state with memory := state.memory.writeAll state.index.toNat (registersUpTo state x) }.next
  | loadRegisters => { state with registers := registersFromMemory state x }.next

/-- Runs an instruction, or stops the machine. -/
def perform (form : Form) (operands : Operands) (state : State) : State :=
  match form.hazard? operands state with
  | some fault => state.halt fault
  | none => form.effect operands state

theorem length_registersUpTo (state : State) (last : Fin 16) :
    (registersUpTo state last).length = last + 1 := by
  have count : ∀ last : Fin 16, (List.finRange 16).countP (· ≤ last) = last + 1 := by decide
  rw [registersUpTo, List.length_filterMap_eq_countP, ← count last]
  congr 1
  funext register
  split <;> simp [*]

end Form

namespace State

/-- Executes a word. Neither an earlier fault nor a wait for a key is looked at. -/
def execute (state : State) (word : UInt16) : State :=
  let marked := { state with opcode := word }
  match Form.ofWord? word with
  | some form => form.perform (Operands.ofWord word) marked
  | none => marked.halt .unknownInstruction

end State

end Chip8
