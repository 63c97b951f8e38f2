/-!
# Faults

Why a machine halts. A fault is kept in the machine's state under a code from 1 on; codes that no
instruction raises can only be put there by a host.
-/

namespace Chip8

inductive Fault where
  /-- The word at the program counter has no known form. -/
  | unknownInstruction
  /-- A call with sixteen return addresses stored. -/
  | stackOverflow
  /-- A return without a stored address. -/
  | stackUnderflow
  /-- An access that would leave memory. -/
  | address
  /-- A key number from sixteen on. -/
  | keypad
  /-- A code without a meaning. -/
  | unassigned (code : UInt8)
deriving DecidableEq, Repr

namespace Fault

def code : Fault → UInt8
  | unknownInstruction => 1
  | stackOverflow => 2
  | stackUnderflow => 3
  | address => 4
  | keypad => 5
  | unassigned code => code

/-- The fault of a code; zero stands for none. -/
def ofCode? (code : UInt8) : Option Fault :=
  match code with
  | 0 => none
  | 1 => some unknownInstruction
  | 2 => some stackOverflow
  | 3 => some stackUnderflow
  | 4 => some address
  | 5 => some keypad
  | other => some (unassigned other)

/-- The code under which a machine keeps its fault, if it has one. -/
def codeOf : Option Fault → UInt8
  | none => 0
  | some fault => fault.code

end Fault

end Chip8
