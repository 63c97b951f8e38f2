import Chip8.Layout

/-!
# Memory

4096 bytes. Instructions address memory with numbers that may lie past its end: such a read gives
the last byte and such a write is lost. Instructions check their addresses before they rely on
either, so neither rule shows in a cycle that completes; `fetch` on its own shows the first.

Main statements: `read_write` and `read_writeAll` say what every address reads after a write,
`read_writeAll_inside` and `read_writeAll_outside` what those it covers read and what the others do,
and `ext_read` that a memory is determined by what its addresses read.
-/

namespace Chip8

structure Memory where
  bytes : Vector UInt8 4096
deriving DecidableEq

namespace Memory

def zero : Memory := ⟨Vector.replicate 4096 0⟩

/-- The byte at an address; past the end, the last byte. -/
def read (memory : Memory) (address : Nat) : UInt8 :=
  memory.bytes[min address 4095]

/-- Replaces the byte at an address; past the end, nothing. -/
def write (memory : Memory) (address : Nat) (value : UInt8) : Memory :=
  if inside : address < 4096 then ⟨memory.bytes.set address value inside⟩ else memory

/-- Writes a run of bytes from `address` on. -/
def writeAll (memory : Memory) (address : Nat) : List UInt8 → Memory
  | [] => memory
  | value :: rest => (memory.write address value).writeAll (address + 1) rest

/-- Memory as it is before a program is loaded: the font, and zeros. -/
def fresh : Memory :=
  zero.writeAll Layout.fontStart Layout.font

theorem ext_read {first second : Memory}
    (agree : ∀ address < 4096, first.read address = second.read address) : first = second := by
  cases first with | mk firstBytes =>
  cases second with | mk secondBytes =>
  congr 1
  apply Vector.ext
  intro address inside
  have same := agree address inside
  simpa [read, Nat.min_eq_left (Nat.le_of_lt_succ inside)] using same

theorem read_of_inside (memory : Memory) {address : Nat} (inside : address < 4096) :
    memory.read address = memory.bytes[address] := by
  simp [read, Nat.min_eq_left (Nat.le_of_lt_succ inside)]

theorem read_write (memory : Memory) (address other : Nat) (value : UInt8) :
    (memory.write address value).read other =
      if address = min other 4095 then value else memory.read other := by
  unfold write
  split
  · simp only [read, Vector.getElem_set]
  · have apart : address ≠ min other 4095 := by omega
    simp [apart]

/-- Inside memory, only the written address reads anew. -/
theorem read_write_of_inside (memory : Memory) (address : Nat) {other : Nat} (value : UInt8)
    (inside : other < 4096) :
    (memory.write address value).read other =
      if address = other then value else memory.read other := by
  rw [read_write, Nat.min_eq_left (Nat.le_of_lt_succ inside)]

/-- A run of bytes reads back where it was written, and all else reads as before. -/
theorem read_writeAll (values : List UInt8) (memory : Memory) (address : Nat) {other : Nat}
    (inside : other < 4096) :
    (memory.writeAll address values).read other =
      if address ≤ other then values[other - address]?.getD (memory.read other)
      else memory.read other := by
  induction values generalizing memory address with
  | nil => simp [writeAll]
  | cons value rest ih =>
    rw [writeAll, ih, read_write_of_inside _ _ _ inside]
    by_cases here : address = other
    · subst here
      have notPast : ¬ address + 1 ≤ address := by omega
      simp [notPast]
    · by_cases above : address + 1 ≤ other
      · have split : other - address = other - (address + 1) + 1 := by omega
        have below : address ≤ other := by omega
        simp [split, above, below, here]
      · have notBelow : ¬ address ≤ other := by omega
        simp [above, notBelow, here]

/-- A run of bytes reads back in its place. -/
theorem read_writeAll_inside (memory : Memory) {address offset : Nat} {values : List UInt8}
    {value : UInt8} (stored : values[offset]? = some value) (inside : address + offset < 4096) :
    (memory.writeAll address values).read (address + offset) = value := by
  rw [read_writeAll values memory address inside, if_pos (Nat.le_add_right address offset),
    Nat.add_sub_cancel_left, stored, Option.getD_some]

/-- A run of bytes leaves the addresses in front of it and behind it alone. -/
theorem read_writeAll_outside (memory : Memory) {address other : Nat} {values : List UInt8}
    (inside : other < 4096) (outside : other < address ∨ address + values.length ≤ other) :
    (memory.writeAll address values).read other = memory.read other := by
  rw [read_writeAll values memory address inside]
  split
  · have past : values.length ≤ other - address := by omega
    rw [List.getElem?_eq_none past, Option.getD_none]
  · rfl

end Memory

end Chip8
