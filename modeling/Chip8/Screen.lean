/-!
# Screen

64 by 32 pixels that are on or off. The cells lie row by row, pixel `(x, y)` at `x + 64 * y`; the
rest of the library speaks of pixels only.

Main statements: `pixel_ofFn`, and `ext_pixel`: a screen is determined by its pixels.
-/

namespace Chip8

structure Screen where
  cells : Vector Bool 2048
deriving DecidableEq

namespace Screen

/-- Where the pixel `(x, y)` lies. -/
def cellIndex (x : Fin 64) (y : Fin 32) : Fin 2048 :=
  ⟨x.val + 64 * y.val, by omega⟩

def pixel (screen : Screen) (x : Fin 64) (y : Fin 32) : Bool :=
  screen.cells[cellIndex x y]

/-- The screen whose pixels are given. -/
def ofFn (lit : Fin 64 → Fin 32 → Bool) : Screen :=
  ⟨Vector.ofFn fun cell => lit ⟨cell.val % 64, by omega⟩ ⟨cell.val / 64, by omega⟩⟩

/-- Every pixel is off. -/
def blank : Screen := ⟨Vector.replicate 2048 false⟩

/-- Flips the pixels that are on in `sprite`. -/
def flip (screen sprite : Screen) : Screen :=
  ⟨Vector.zipWith (fun old new => old ^^ new) screen.cells sprite.cells⟩

/-- Whether some pixel is on in both. -/
def overlaps (screen sprite : Screen) : Bool :=
  (Vector.zipWith (fun old new => old && new) screen.cells sprite.cells).any id

@[simp]
theorem pixel_ofFn (lit : Fin 64 → Fin 32 → Bool) (x : Fin 64) (y : Fin 32) :
    (ofFn lit).pixel x y = lit x y := by
  have column : (x.val + 64 * y.val) % 64 = x.val := by omega
  have row : (x.val + 64 * y.val) / 64 = y.val := by omega
  simp [ofFn, pixel, cellIndex, column, row]

@[simp]
theorem pixel_flip (screen sprite : Screen) (x : Fin 64) (y : Fin 32) :
    (screen.flip sprite).pixel x y = (screen.pixel x y ^^ sprite.pixel x y) := by
  simp [flip, pixel]

theorem ext_pixel {first second : Screen} (agree : ∀ x y, first.pixel x y = second.pixel x y) :
    first = second := by
  cases first with | mk firstCells =>
  cases second with | mk secondCells =>
  congr 1
  apply Vector.ext
  intro cell inside
  have same := agree ⟨cell % 64, by omega⟩ ⟨cell / 64, by omega⟩
  have here : cell % 64 + 64 * (cell / 64) = cell := by omega
  simpa [pixel, cellIndex, here] using same

theorem overlaps_iff (screen sprite : Screen) :
    screen.overlaps sprite = true ↔ ∃ x y, screen.pixel x y = true ∧ sprite.pixel x y = true := by
  simp only [overlaps, Vector.any_iff_exists, Vector.getElem_zipWith, id_eq, Bool.and_eq_true]
  constructor
  · rintro ⟨cell, inside, both⟩
    refine ⟨⟨cell % 64, by omega⟩, ⟨cell / 64, by omega⟩, ?_⟩
    have here : cell % 64 + 64 * (cell / 64) = cell := by omega
    simpa [pixel, cellIndex, here] using both
  · rintro ⟨x, y, both⟩
    exact ⟨x.val + 64 * y.val, by omega, by simpa [pixel, cellIndex] using both⟩

end Screen

end Chip8
