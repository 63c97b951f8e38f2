/-!
# Registers

Sixteen bytes, `V0` to `VF`.
-/

namespace Chip8

/-- There are registers, so their numbers can be written as numerals. -/
@[instance]
theorem registers_neZero : @NeZero Nat Zero.ofOfNat0 16 := ⟨by decide⟩

structure Registers where
  values : Vector UInt8 16
deriving DecidableEq

namespace Registers

def zero : Registers := ⟨Vector.replicate 16 0⟩

def get (registers : Registers) (register : Fin 16) : UInt8 :=
  registers.values.get register

def set (registers : Registers) (register : Fin 16) (value : UInt8) : Registers :=
  ⟨registers.values.setIfInBounds register value⟩

/-- Writes the register of a number; from sixteen on there is none, and the value is lost. -/
def setNumber (registers : Registers) (number : Nat) (value : UInt8) : Registers :=
  if inside : number < 16 then registers.set ⟨number, inside⟩ value else registers

/-- Registers given by what each holds. -/
def ofFn (value : Fin 16 → UInt8) : Registers :=
  ⟨Vector.ofFn value⟩

@[ext]
theorem ext {first second : Registers}
    (agree : ∀ register, first.get register = second.get register) :
    first = second := by
  cases first with | mk firstValues =>
  cases second with | mk secondValues =>
  congr 1
  apply Vector.ext
  intro number inside
  exact agree ⟨number, inside⟩

@[simp]
theorem get_ofFn (value : Fin 16 → UInt8) (register : Fin 16) :
    (ofFn value).get register = value register := by
  change (Vector.ofFn value)[register] = value register
  simp

theorem get_set (registers : Registers) (register other : Fin 16) (value : UInt8) :
    (registers.set register value).get other =
      if register = other then value else registers.get other := by
  change (registers.values.setIfInBounds register value)[other] =
    if register = other then value else registers.values[other]
  simp [Vector.getElem_setIfInBounds, Fin.ext_iff]

@[simp]
theorem get_set_self (registers : Registers) (register : Fin 16) (value : UInt8) :
    (registers.set register value).get register = value := by
  simp [get_set]

theorem get_set_of_ne (registers : Registers) {register other : Fin 16} (value : UInt8)
    (apart : other ≠ register) :
    (registers.set register value).get other = registers.get other := by
  rw [get_set, if_neg (Ne.symm apart)]

/-- The last value that is written stays. -/
@[simp]
theorem set_set (registers : Registers) (register : Fin 16) (first second : UInt8) :
    (registers.set register first).set register second = registers.set register second := by
  refine ext fun other => ?_
  simp only [get_set]
  split <;> rfl

theorem setNumber_of_lt (registers : Registers) {number : Nat} (value : UInt8)
    (inside : number < 16) :
    registers.setNumber number value = registers.set ⟨number, inside⟩ value := by
  simp [setNumber, inside]

theorem get_setNumber_of_ne (registers : Registers) {number : Nat} (value : UInt8)
    {register : Fin 16} (other : register.val ≠ number) :
    (registers.setNumber number value).get register = registers.get register := by
  unfold setNumber
  split
  · next inside =>
    exact get_set_of_ne registers value fun same => other (congrArg Fin.val same)
  · rfl

end Registers

end Chip8
