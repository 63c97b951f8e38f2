/-!
# Operand fields

An instruction word is four hexadecimal digits. The first tells the family; the others are read as
register numbers `x` and `y`, as the digit `n`, as the byte `nn` of the last two, or as the address
`nnn` of the last three. The fields are taken from any integer, of which the lowest sixteen bits
count; a negative one counts as in two's complement.
-/

namespace Chip8

structure Operands where
  family : Fin 16
  x : Fin 16
  y : Fin 16
  n : Fin 16
  nn : Fin 256
  nnn : Fin 4096
deriving DecidableEq, Repr

namespace Operands

/-- The fields of the lowest four hexadecimal digits of a number. -/
def ofInt (number : Int) : Operands where
  family := ⟨(number / 0x1000 % 16).toNat, by omega⟩
  x := ⟨(number / 0x100 % 16).toNat, by omega⟩
  y := ⟨(number / 0x10 % 16).toNat, by omega⟩
  n := ⟨(number % 16).toNat, by omega⟩
  nn := ⟨(number % 0x100).toNat, by omega⟩
  nnn := ⟨(number % 0x1000).toNat, by omega⟩

def ofWord (word : UInt16) : Operands :=
  ofInt word.toNat

/-- The byte `nn` as a register holds it. -/
def byte (operands : Operands) : UInt8 :=
  UInt8.ofNat operands.nn

/-- The address `nnn` as the program counter holds it. -/
def address (operands : Operands) : UInt16 :=
  UInt16.ofNat operands.nnn

/-- The fields are the digits of one number. -/
theorem ofInt_digits (number : Int) :
    let fields := ofInt number
    number % 0x10000 = 0x1000 * fields.family.val + fields.nnn.val ∧
      fields.nnn.val = 0x100 * fields.x.val + fields.nn.val ∧
      fields.nn.val = 0x10 * fields.y.val + fields.n.val := by
  simp only [ofInt]
  omega

/-- Bits above the lowest sixteen do not matter. -/
theorem ofInt_emod (number : Int) : ofInt (number % 0x10000) = ofInt number := by
  simp only [ofInt, Operands.mk.injEq, Fin.mk.injEq]
  omega

end Operands

end Chip8
