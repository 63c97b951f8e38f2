/-!
# Instruction forms

The thirty-five forms an instruction word can have, each with the bits that tell it (`mask` and
`pattern`) and its assembly text, in the order in which they are tried. Clearing the screen and
returning stand before the machine-code call whose pattern covers them.
-/

namespace Chip8

/-- An operand field as it occurs in assembly text. -/
inductive Slot where
  | x | y | n | nn | nnn
deriving DecidableEq, Repr

namespace Slot

def name : Slot → String
  | x => "x"
  | y => "y"
  | n => "n"
  | nn => "nn"
  | nnn => "nnn"

end Slot

/-- A piece of assembly text: letters as they stand, or an operand. -/
inductive Piece where
  | letters (text : String)
  | operand (slot : Slot)
deriving DecidableEq, Repr

namespace Piece

/-- A piece with an operand shown by its name in braces. -/
def outline : Piece → String
  | letters text => text
  | operand slot => "\x7b" ++ slot.name ++ "\x7d"

end Piece

inductive Form where
  | clearScreen | ret | machineCall | jump | call
  | skipEqualByte | skipUnequalByte | skipEqual | setByte | addByte
  | move | bitOr | bitAnd | bitXor | add | subtract | shiftRight | subtractFrom | shiftLeft
  | skipUnequal | setIndex | jumpOffset | random | draw
  | skipPressed | skipReleased
  | readDelay | awaitKey | setDelay | setSound | addIndex | digitSprite | storeDecimal
  | storeRegisters | loadRegisters
deriving DecidableEq, Repr

namespace Form

/-- A row of the instruction table: a word has the form if it equals `pattern` in the bits of
`mask`. -/
structure Row where
  mask : UInt16
  pattern : UInt16
  assembly : List Piece

open Piece Slot in
/-- The instruction table. -/
def row : Form → Row
  | clearScreen => ⟨0xFFFF, 0x00E0, [letters "CLS"]⟩
  | ret => ⟨0xFFFF, 0x00EE, [letters "RET"]⟩
  | machineCall => ⟨0xF000, 0x0000, [letters "SYS ", operand nnn]⟩
  | jump => ⟨0xF000, 0x1000, [letters "JP ", operand nnn]⟩
  | call => ⟨0xF000, 0x2000, [letters "CALL ", operand nnn]⟩
  | skipEqualByte => ⟨0xF000, 0x3000, [letters "SE V", operand x, letters ", ", operand nn]⟩
  | skipUnequalByte => ⟨0xF000, 0x4000, [letters "SNE V", operand x, letters ", ", operand nn]⟩
  | skipEqual => ⟨0xF00F, 0x5000, [letters "SE V", operand x, letters ", V", operand y]⟩
  | setByte => ⟨0xF000, 0x6000, [letters "LD V", operand x, letters ", ", operand nn]⟩
  | addByte => ⟨0xF000, 0x7000, [letters "ADD V", operand x, letters ", ", operand nn]⟩
  | move => ⟨0xF00F, 0x8000, [letters "LD V", operand x, letters ", V", operand y]⟩
  | bitOr => ⟨0xF00F, 0x8001, [letters "OR V", operand x, letters ", V", operand y]⟩
  | bitAnd => ⟨0xF00F, 0x8002, [letters "AND V", operand x, letters ", V", operand y]⟩
  | bitXor => ⟨0xF00F, 0x8003, [letters "XOR V", operand x, letters ", V", operand y]⟩
  | add => ⟨0xF00F, 0x8004, [letters "ADD V", operand x, letters ", V", operand y]⟩
  | subtract => ⟨0xF00F, 0x8005, [letters "SUB V", operand x, letters ", V", operand y]⟩
  | shiftRight => ⟨0xF00F, 0x8006, [letters "SHR V", operand x]⟩
  | subtractFrom => ⟨0xF00F, 0x8007, [letters "SUBN V", operand x, letters ", V", operand y]⟩
  | shiftLeft => ⟨0xF00F, 0x800E, [letters "SHL V", operand x]⟩
  | skipUnequal => ⟨0xF00F, 0x9000, [letters "SNE V", operand x, letters ", V", operand y]⟩
  | setIndex => ⟨0xF000, 0xA000, [letters "LD I, ", operand nnn]⟩
  | jumpOffset => ⟨0xF000, 0xB000, [letters "JP V0, ", operand nnn]⟩
  | random => ⟨0xF000, 0xC000, [letters "RND V", operand x, letters ", ", operand nn]⟩
  | draw => ⟨0xF000, 0xD000,
      [letters "DRW V", operand x, letters ", V", operand y, letters ", ", operand n]⟩
  | skipPressed => ⟨0xF0FF, 0xE09E, [letters "SKP V", operand x]⟩
  | skipReleased => ⟨0xF0FF, 0xE0A1, [letters "SKNP V", operand x]⟩
  | readDelay => ⟨0xF0FF, 0xF007, [letters "LD V", operand x, letters ", DT"]⟩
  | awaitKey => ⟨0xF0FF, 0xF00A, [letters "LD V", operand x, letters ", K"]⟩
  | setDelay => ⟨0xF0FF, 0xF015, [letters "LD DT, V", operand x]⟩
  | setSound => ⟨0xF0FF, 0xF018, [letters "LD ST, V", operand x]⟩
  | addIndex => ⟨0xF0FF, 0xF01E, [letters "ADD I, V", operand x]⟩
  | digitSprite => ⟨0xF0FF, 0xF029, [letters "LD F, V", operand x]⟩
  | storeDecimal => ⟨0xF0FF, 0xF033, [letters "LD B, V", operand x]⟩
  | storeRegisters => ⟨0xF0FF, 0xF055, [letters "LD [I], V", operand x]⟩
  | loadRegisters => ⟨0xF0FF, 0xF065, [letters "LD V", operand x, letters ", [I]"]⟩

/-- All forms, in the order in which a word is compared with them. -/
def all : List Form := [
  clearScreen, ret, machineCall, jump, call,
  skipEqualByte, skipUnequalByte, skipEqual, setByte, addByte,
  move, bitOr, bitAnd, bitXor, add, subtract, shiftRight, subtractFrom, shiftLeft,
  skipUnequal, setIndex, jumpOffset, random, draw,
  skipPressed, skipReleased,
  readDelay, awaitKey, setDelay, setSound, addIndex, digitSprite, storeDecimal,
  storeRegisters, loadRegisters]

/-- The assembly text of a form, operands shown by name. -/
def outline (form : Form) : String :=
  String.join (form.row.assembly.map Piece.outline)

/-- Whether a word has the form. -/
def covers (form : Form) (word : UInt16) : Bool :=
  word &&& form.row.mask == form.row.pattern

/-- Whether the lowest sixteen bits of a number have the form. -/
def coversInt (form : Form) (number : Int) : Bool :=
  (number % 0x10000).toNat &&& form.row.mask.toNat == form.row.pattern.toNat

/-- The first form that a word has. -/
def ofWord? (word : UInt16) : Option Form :=
  all.find? (·.covers word)

/-- The first form that the lowest sixteen bits of a number have. -/
def ofInt? (number : Int) : Option Form :=
  all.find? (·.coversInt number)

/-- The place of a form in the table. -/
def place (form : Form) : Nat :=
  all.idxOf form

/-- The place in the table of the form of a word, or the number of forms if it has none. -/
def placeOfWord (word : UInt16) : Nat :=
  match ofWord? word with
  | some form => form.place
  | none => all.length

/-- `placeOfWord` for a number that is a word. -/
def placeOfInt? (number : Int) : Option Nat :=
  if 0 ≤ number ∧ number < 0x10000 then some (placeOfWord (UInt16.ofInt number)) else none

theorem mem_all (form : Form) : form ∈ all := by
  cases form <;> decide

end Form

end Chip8
