import Chip8.Picture

/-!
# Colours of pictures

Where a colour of a picture comes from: each step from a frame to the surface of a window, the
colouring, the turn and the blow-up, moves colours to other places and changes nothing else. Put
together, a surface shows the screen (`shows_columnsOf`).
-/

namespace Chip8

namespace Raster

/-- The pixels of a grid lie where their coordinates say. -/
theorem getElem?_grid {height width : Nat} (lit : Nat → Nat → Bool) {x y : Nat} (left : x < width)
    (above : y < height) :
    ((grid height width lit)[y]?.bind fun row => row[x]?) = some (lit x y) := by
  simp [grid, left, above]

/-- A frame that is handed out holds the pixels row by row. -/
theorem cell_ofFrame (screen : Screen) (x : Fin 64) (y : Fin 32) :
    (ofFrame screen.cells).cell (x + 64 * y) = screen.pixel x y := by
  have inside : x.val + 64 * y.val < 2048 := by omega
  simp [cell, ofFrame, Screen.pixel, Screen.cellIndex, inside]

end Raster

namespace Picture

/-- The colour at a place of a line, if the picture reaches that far. -/
def at? (picture : Picture) (line place : Nat) : Option Colour :=
  picture.rows[line]?.bind fun colours => colours[place]?

/-! ## Blowing up -/

/-- Of a list whose items are repeated, the items at a place come from the place divided. -/
theorem getElem?_repeatEach {α : Type} {count : Nat} (positive : 0 < count) (items : List α)
    (place : Nat) : (repeatEach count items)[place]? = items[place / count]? := by
  induction items generalizing place with
  | nil => simp [repeatEach]
  | cons item rest ih =>
    rw [repeatEach, List.flatMap_cons, List.getElem?_append, List.length_replicate]
    by_cases early : place < count
    · rw [if_pos early, Nat.div_eq_of_lt early]
      simp [early]
    · obtain ⟨further, rfl⟩ : ∃ further, place = further + count :=
        ⟨place - count, by omega⟩
      rw [if_neg early, Nat.add_sub_cancel, Nat.add_div_right further positive,
        List.getElem?_cons_succ]
      exact ih further

theorem at?_enlarged (picture : Picture) {scale : Nat} (positive : 0 < scale) (line place : Nat) :
    (picture.enlarged scale).at? line place = picture.at? (line / scale) (place / scale) := by
  simp only [at?, enlarged, getElem?_repeatEach positive, List.getElem?_map]
  cases picture.rows[line / scale]? with
  | none => rfl
  | some colours => exact getElem?_repeatEach positive colours place

/-- A scaled picture has its colours in blocks; a scale below one counts as one. -/
theorem at?_scaled {picture bigger : Picture} {scale : Int}
    (fits : picture.scaled scale = .ok bigger) (line place : Nat) :
    bigger.at? line place =
      picture.at? (line / (max scale 1).toNat) (place / (max scale 1).toNat) := by
  unfold scaled at fits
  split at fits
  · next small =>
    cases fits
    rw [Int.max_eq_right small, Int.toNat_one, Nat.div_one, Nat.div_one]
  · next large =>
    split at fits
    · cases fits
      rw [Int.max_eq_left (by omega)]
      exact at?_enlarged picture (by omega) line place
    · contradiction

/-- At every scale that is small enough, a picture can be scaled. -/
theorem scaled_of_lt (picture : Picture) {scale : Int} (small : scale < 0x8000000000000000) :
    ∃ bigger, picture.scaled scale = .ok bigger := by
  by_cases least : scale ≤ 1
  · exact ⟨_, if_pos least⟩
  · exact ⟨_, (if_neg least).trans (if_pos small)⟩

/-! ## Turning -/

/-- Columns hold the places of rows. -/
theorem getElem?_columns {rows : List (List Colour)} {width : Nat}
    (even : ∀ row ∈ rows, row.length = width) {column : Nat} (inside : column < width) :
    ∃ colours, (columns rows width)[column]? = some colours ∧
      ∀ place : Nat, colours[place]? = rows[place]?.bind fun row => row[column]? := by
  induction rows with
  | nil => exact ⟨[], by simp [columns, inside], by simp⟩
  | cons row rest ih =>
    obtain ⟨first, later⟩ := List.forall_mem_cons.mp even
    obtain ⟨colours, found, holds⟩ := ih later
    obtain ⟨colour, here⟩ : ∃ colour, row[column]? = some colour :=
      ⟨_, List.getElem?_eq_getElem (first ▸ inside)⟩
    refine ⟨colour :: colours, ?_, fun place => ?_⟩
    · rw [columns, List.getElem?_zipWith, here, found]
    · cases place with
      | zero => exact here.symm
      | succ place => exact holds place

/-- A turned picture has its colours where lines and places are exchanged. -/
theorem at?_transposed {picture : Picture}
    (even : ∀ row ∈ picture.rows, row.length = picture.width) {line : Nat}
    (inside : line < picture.width) (place : Nat) :
    picture.transposed.at? line place = picture.at? place line := by
  obtain ⟨colours, found, holds⟩ := getElem?_columns even inside
  rw [at?, transposed, found]
  exact holds place

/-! ## Screens -/

theorem at?_ofRows (palette : Palette) (pixels : List (List Bool)) (line place : Nat) :
    (ofRows palette pixels).at? line place =
      (pixels[line]?.bind fun row => row[place]?).map palette.colour := by
  simp only [at?, ofRows, List.getElem?_map]
  cases pixels[line]? with
  | none => rfl
  | some row => exact List.getElem?_map

/-- The picture of a frame, before it is scaled, has the colour of a pixel in its row and column. -/
theorem at?_ofRows_ofFrame (palette : Palette) (screen : Screen) (x : Fin 64) (y : Fin 32) :
    (ofRows palette (Raster.grid 32 64 fun x y =>
      (Raster.ofFrame screen.cells).cell (x + 64 * y))).at? y x =
        some (palette.colour (screen.pixel x y)) := by
  rw [at?_ofRows, Raster.getElem?_grid _ x.isLt y.isLt, Option.map_some, Raster.cell_ofFrame]

/-- A surface shows a screen, column by column: each pixel is a block in the colour it takes. -/
def Shows (surface : Picture) (screen : Screen) (scale : Nat) (palette : Palette) : Prop :=
  ∀ (column row : Nat) (left : column < scale * 64) (above : row < scale * 32),
    surface.at? column row = some (palette.colour
      (screen.pixel ⟨column / scale, Nat.div_lt_of_lt_mul left⟩
        ⟨row / scale, Nat.div_lt_of_lt_mul above⟩))

/-- The surface made of a frame shows the screen. -/
theorem shows_columnsOf {screen : Screen} {scale : Int} {palette : Palette} {surface : Picture}
    (made : columnsOf (.ofFrame screen.cells) scale palette = .ok surface) :
    surface.Shows screen (max scale 1).toNat palette := by
  intro column row left above
  let pixels := Raster.grid 32 64 fun x y => (Raster.ofFrame screen.cells).cell (x + 64 * y)
  have turned : (ofRows palette pixels).transposed.scaled scale = .ok surface := made
  have even : ∀ row ∈ (ofRows palette pixels).rows, row.length = 64 := by
    simp [ofRows, pixels, Raster.grid]
  let x : Fin 64 := ⟨column / (max scale 1).toNat, Nat.div_lt_of_lt_mul left⟩
  let y : Fin 32 := ⟨row / (max scale 1).toNat, Nat.div_lt_of_lt_mul above⟩
  calc surface.at? column row
      = (ofRows palette pixels).transposed.at? x y := at?_scaled turned column row
    _ = (ofRows palette pixels).at? y x := at?_transposed even x.isLt y
    _ = some (palette.colour (screen.pixel x y)) := at?_ofRows_ofFrame palette screen x y

end Picture

end Chip8
