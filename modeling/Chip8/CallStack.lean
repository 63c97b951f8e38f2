/-!
# Call stack

Sixteen return addresses and a pointer to the first free slot. Instructions look at `isFull` before
`push` and at `isEmpty` before `pop`; a host may use both without looking. Then a negative index
counts from the end, a read beyond the slots gives the nearest slot, and a write beyond them is
lost. The pointer itself always moves.
-/

namespace Chip8

structure CallStack where
  slots : Vector UInt16 16
  pointer : Int32
deriving DecidableEq

namespace CallStack

def empty : CallStack := ⟨Vector.replicate 16 0, 0⟩

/-- Whether another `push` would overflow. -/
def isFull (stack : CallStack) : Bool :=
  16 ≤ stack.pointer

/-- Whether a `pop` would underflow. -/
def isEmpty (stack : CallStack) : Bool :=
  stack.pointer ≤ 0

/-- The slot an index names: a negative one counts from the end. -/
def position (index : Int) : Int :=
  if index < 0 then index + 16 else index

/-- The address at an index, or at the nearest slot there is. -/
def read (stack : CallStack) (index : Int) : UInt16 :=
  stack.slots[min (position index).toNat 15]

/-- Replaces the address at an index, if it names a slot. -/
def write (stack : CallStack) (index : Int) (address : UInt16) : CallStack :=
  if inside : 0 ≤ position index ∧ position index < 16 then
    { stack with slots := stack.slots.set (position index).toNat address (by omega) }
  else stack

/-- Stores a return address in the first free slot. -/
def push (stack : CallStack) (address : UInt16) : CallStack :=
  { stack.write stack.pointer.toInt address with pointer := stack.pointer + 1 }

/-- Takes the last return address out and clears its slot. -/
def pop (stack : CallStack) : CallStack × UInt16 :=
  let last := stack.pointer - 1
  ({ stack.write last.toInt 0 with pointer := last }, stack.read last.toInt)

@[simp]
theorem pointer_push (stack : CallStack) (address : UInt16) :
    (stack.push address).pointer = stack.pointer + 1 := rfl

@[simp]
theorem pointer_pop (stack : CallStack) : stack.pop.1.pointer = stack.pointer - 1 := rfl

/-- Between its ends a stack reads the slot an index names. -/
theorem read_of_inside (stack : CallStack) {index : Nat} (inside : index < 16) :
    stack.read (index : Int) = stack.slots[index] := by
  have same : min (position (index : Int)).toNat 15 = index := by
    simp only [position]
    omega
  simp only [read, same]

/-- Between its ends a write changes the slot an index names, and nothing else. -/
theorem write_of_inside (stack : CallStack) {index : Nat} (address : UInt16)
    (inside : index < 16) :
    stack.write (index : Int) address =
      { stack with slots := stack.slots.set index address inside } := by
  have same : position (index : Int) = index := by
    simp only [position]
    omega
  have named : (index : Int) < 16 := by omega
  simp [write, same, named]

theorem slots_write_of_inside (stack : CallStack) {index : Nat} (address : UInt16)
    (inside : index < 16) :
    (stack.write (index : Int) address).slots = stack.slots.set index address := by
  rw [stack.write_of_inside address inside]

end CallStack

end Chip8
