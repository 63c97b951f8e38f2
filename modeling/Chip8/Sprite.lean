import Chip8.Memory
import Chip8.Screen

/-!
# Sprites

A sprite is a run of bytes in memory, one byte a row of eight pixels, the highest bit on the left.
It is drawn with its upper left corner at a point of the screen and wraps around on each axis by
itself: what leaves on the right enters on the left of the same rows.
-/

namespace Chip8.Sprite

/-- How far a coordinate lies behind a start, going round a circle of `size` places. -/
def offset (size start place : Nat) : Nat :=
  (place + (size - start % size)) % size

/-- Whether the sprite of `height` rows at address `index`, drawn at `(left, top)`, lights the pixel
`(x, y)`. -/
def lights (memory : Memory) (index height left top : Nat) (x : Fin 64) (y : Fin 32) : Bool :=
  let column := offset 64 left x
  let row := offset 32 top y
  column < 8 && row < height && (memory.read (index + row)).toNat.testBit (7 - column)

/-- The pixels of a sprite as a screen of its own. -/
def mask (memory : Memory) (index height left top : Nat) : Screen :=
  Screen.ofFn (lights memory index height left top)

@[simp]
theorem pixel_mask (memory : Memory) (index height left top : Nat) (x : Fin 64) (y : Fin 32) :
    (mask memory index height left top).pixel x y = lights memory index height left top x y :=
  Screen.pixel_ofFn _ x y

/-- The place at an offset lies at that offset. -/
theorem offset_add {size : Nat} (positive : 0 < size) (start : Nat) {distance : Nat}
    (near : distance < size) : offset size start ((start + distance) % size) = distance := by
  unfold offset
  have bounded := Nat.mod_lt start positive
  rw [Nat.add_mod start distance, Nat.mod_add_mod, Nat.mod_eq_of_lt near]
  have regroup : start % size + distance + (size - start % size) = distance + size := by omega
  rw [regroup, Nat.add_mod_right, Nat.mod_eq_of_lt near]

/-- Going on from the start by a place's offset leads to the place. -/
theorem add_offset {size : Nat} (start : Nat) {place : Nat} (inside : place < size) :
    (start + offset size start place) % size = place := by
  unfold offset
  have positive : 0 < size := by omega
  have bounded := Nat.mod_lt start positive
  rw [Nat.add_mod_mod, ← Nat.mod_add_mod]
  have regroup : start % size + (place + (size - start % size)) = place + size := by omega
  rw [regroup, Nat.add_mod_right, Nat.mod_eq_of_lt inside]

end Chip8.Sprite
