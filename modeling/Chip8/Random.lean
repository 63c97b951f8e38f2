/-!
# Random numbers

A counter-based generator: the Threefry block function with two 32-bit words and twenty rounds turns
a key and a counter into two words. Nothing is drawn from a stream; each use of a key derives the
next key and one byte from it, so the bytes depend on the seed and on how many were taken.
-/

namespace Chip8.Random

/-- A pair of 32-bit words: a key, a counter, or what a block yields. -/
structure Pair where
  first : UInt32
  second : UInt32
deriving DecidableEq, Repr

/-- The bits of a word moved left, those pushed out coming back on the right. -/
def rotateLeft (word : UInt32) (distance : UInt32) : UInt32 :=
  (word <<< distance) ||| (word >>> (32 - distance))

/-- One round: add, rotate, combine. -/
def mix (state : Pair) (distance : UInt32) : Pair :=
  let sum := state.first + state.second
  ⟨sum, rotateLeft state.second distance ^^^ sum⟩

/-- Adds key words and the number of the group to the state. -/
def inject (state : Pair) (first second group : UInt32) : Pair :=
  ⟨state.first + first, state.second + second + group⟩

/-- Rotation distances of the first, third and fifth group of rounds. -/
def oddGroup : List UInt32 := [13, 15, 26, 6]

/-- Rotation distances of the second and fourth group of rounds. -/
def evenGroup : List UInt32 := [17, 29, 16, 24]

/-- The block function: twenty rounds in five groups, key words added before each group and at the
end. -/
def block (key counter : Pair) : Pair :=
  let k0 := key.first
  let k1 := key.second
  let k2 := k0 ^^^ k1 ^^^ 0x1BD11BDA
  let s0 : Pair := ⟨counter.first + k0, counter.second + k1⟩
  let s1 := inject (oddGroup.foldl mix s0) k1 k2 1
  let s2 := inject (evenGroup.foldl mix s1) k2 k0 2
  let s3 := inject (oddGroup.foldl mix s2) k0 k1 3
  let s4 := inject (evenGroup.foldl mix s3) k1 k2 4
  inject (oddGroup.foldl mix s4) k2 k0 5

/-- The key that replaces a key once it has been used. -/
def next (key : Pair) : Pair :=
  block key ⟨0, 0⟩

/-- The random byte that a key yields. -/
def byte (key : Pair) : UInt8 :=
  let drawKey := block (block key ⟨0, 1⟩) ⟨0, 1⟩
  let words := block drawKey ⟨0, 0⟩
  (words.first ^^^ words.second).toUInt8

/-- The key of a seed, which must be a signed 64-bit number; its low 32 bits count. -/
def ofSeed? (seed : Int) : Option Pair :=
  if -0x8000000000000000 ≤ seed ∧ seed < 0x8000000000000000 then some ⟨0, UInt32.ofInt seed⟩ else none

end Chip8.Random
