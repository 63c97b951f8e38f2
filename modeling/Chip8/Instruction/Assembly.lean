import Chip8.Instruction.Form
import Chip8.Instruction.Operands
import Chip8.Text.Numeral

/-!
# Assembly text

A number is written as the instruction that its lowest sixteen bits are. What has no form is
written as a data word, with all of the number shown.
-/

namespace Chip8

namespace Operands

/-- An operand as assembly text shows it: registers as one hexadecimal digit, the height of a sprite
in decimal, bytes and addresses in hexadecimal of full width. -/
def text (operands : Operands) : Slot → String
  | .x => Text.hexDigits operands.x
  | .y => Text.hexDigits operands.y
  | .n => Text.digits operands.n
  | .nn => "0x" ++ Text.hex 2 operands.nn.val
  | .nnn => "0x" ++ Text.hex 3 operands.nnn.val

/-- A piece of assembly text with its operand filled in. -/
def fill (operands : Operands) : Piece → String
  | .letters text => text
  | .operand slot => operands.text slot

end Operands

namespace Form

/-- The assembly text of a form with operands. -/
def assemblyText (form : Form) (operands : Operands) : String :=
  String.join (form.row.assembly.map operands.fill)

end Form

/-- A number that is no instruction, as data. -/
def dataText (number : Int) : String :=
  "DW 0x" ++ Text.hex 4 number

/-- The assembly text of a number. -/
def disassemble (number : Int) : String :=
  match Form.ofInt? number with
  | some form => form.assemblyText (Operands.ofInt number)
  | none => dataText number

end Chip8
