/-!
# Arithmetic on registers

What the two-register instructions compute: a result, and for those that tell about a carry, a
borrow or a bit shifted out, the value of the flag register.

Main statements: result and flag together are the exact integer result (`add_exact`,
`subtract_exact`, which with its operands exchanged says it of `subtractFrom` too,
`shiftRight_exact`, `shiftLeft_exact`).
-/

namespace Chip8

/-- The operations on a pair of registers. -/
inductive Operation where
  | move | bitOr | bitAnd | bitXor | add | subtract | shiftRight | subtractFrom | shiftLeft
deriving DecidableEq, Repr

/-- A flag value as a register holds it. -/
def flag (condition : Bool) : UInt8 :=
  if condition then 1 else 0

namespace Operation

/-- The new value of the first register. -/
def result : Operation → UInt8 → UInt8 → UInt8
  | move, _, b => b
  | bitOr, a, b => a ||| b
  | bitAnd, a, b => a &&& b
  | bitXor, a, b => a ^^^ b
  | add, a, b => a + b
  | subtract, a, b => a - b
  | shiftRight, a, _ => a >>> 1
  | subtractFrom, a, b => b - a
  | shiftLeft, a, _ => a <<< 1

/-- The flag: a carry, the absence of a borrow, or the bit shifted out. -/
def flag? : Operation → UInt8 → UInt8 → Option UInt8
  | add, a, b => some (flag (256 ≤ a.toNat + b.toNat))
  | subtract, a, b => some (flag (b ≤ a))
  | shiftRight, a, _ => some (a &&& 1)
  | subtractFrom, a, b => some (flag (a ≤ b))
  | shiftLeft, a, _ => some (a >>> 7)
  | _, _, _ => none

theorem toNat_flag (condition : Bool) : (flag condition).toNat = if condition then 1 else 0 := by
  cases condition <;> rfl

/-- A carry stands for 256. -/
theorem add_exact (a b : UInt8) :
    (result add a b).toNat + 256 * (flag (256 ≤ a.toNat + b.toNat)).toNat
      = a.toNat + b.toNat := by
  have boundA := a.toNat_lt
  have boundB := b.toNat_lt
  simp only [result, UInt8.toNat_add, toNat_flag, decide_eq_true_eq]
  split <;> omega

/-- A borrow, which a clear flag tells, stands for 256. -/
theorem subtract_exact (a b : UInt8) :
    (result subtract a b).toNat + b.toNat
      = a.toNat + 256 * (1 - (flag (b ≤ a)).toNat) := by
  have boundA := a.toNat_lt
  have boundB := b.toNat_lt
  simp only [result, UInt8.toNat_sub, toNat_flag, decide_eq_true_eq, UInt8.le_iff_toNat_le]
  split <;> omega

/-- The bit shifted out on the right is the unit. -/
theorem shiftRight_exact (a b : UInt8) :
    2 * (result shiftRight a b).toNat + (a &&& 1).toNat = a.toNat := by
  have half : (a >>> 1).toNat = a.toNat / 2 := by
    simp [UInt8.toNat_shiftRight, Nat.shiftRight_eq_div_pow]
  have unit : (a &&& 1).toNat = a.toNat % 2 := by
    simp [UInt8.toNat_and, Nat.and_one_is_mod]
  simp only [result, half, unit]
  omega

/-- The bit shifted out on the left stands for 256. -/
theorem shiftLeft_exact (a b : UInt8) :
    (result shiftLeft a b).toNat + 256 * (a >>> 7).toNat = 2 * a.toNat := by
  have bound := a.toNat_lt
  have double : (a <<< 1).toNat = 2 * a.toNat % 256 := by
    simp [UInt8.toNat_shiftLeft, Nat.shiftLeft_eq, Nat.mul_comm]
  have top : (a >>> 7).toNat = a.toNat / 128 := by
    simp [UInt8.toNat_shiftRight, Nat.shiftRight_eq_div_pow]
  simp only [result, double, top]
  omega

end Operation

end Chip8
