import Chip8.Inputs

/-!
# Pictures

A screen becomes a picture: each pixel takes one of two colours and is blown up to a square block. A
screen may come as columns of rows, 64 by 32, or as the flat frame that a machine hands out.
-/

namespace Chip8

/-- Cells that are on or off in rows, rows of rows and so on. The cells lie one after the other, the
last extent running fastest. -/
structure Raster where
  shape : List Nat
  cells : Array Bool

namespace Raster

/-- A cell by its place; beyond the last one all is off. -/
def cell (raster : Raster) (place : Nat) : Bool :=
  raster.cells.getD place false

/-- The screen column by column. -/
def ofScreen (screen : Screen) : Raster where
  shape := [64, 32]
  cells := Array.ofFn fun place : Fin 2048 =>
    screen.pixel ⟨place.val / 32, by omega⟩ ⟨place.val % 32, by omega⟩

/-- A frame as it is handed out. -/
def ofFrame (frame : Frame) : Raster where
  shape := [2048]
  cells := frame.toArray

/-- Rows of a grid, given by row and column. -/
def grid (height width : Nat) (lit : Nat → Nat → Bool) : List (List Bool) :=
  (List.range height).map fun y => (List.range width).map fun x => lit x y

/-- The pixels row by row, from the top. -/
def rows (raster : Raster) : Except Failure (List (List Bool)) :=
  if raster.shape = [64, 32] then .ok (grid 32 64 fun x y => raster.cell (32 * x + y))
  else if raster.shape = [2048] then .ok (grid 32 64 fun x y => raster.cell (x + 64 * y))
  else .error (.frameShape raster.shape)

end Raster

/-- A colour: the strength of each channel. -/
abbrev Colour := List UInt8

/-- The colours of pixels that are on and of those that are off. -/
structure Palette where
  lit : Colour
  dark : Colour
deriving DecidableEq, Repr

namespace Palette

/-- The palette of two colours given as numbers. Both must have as many channels. -/
def ofInts (lit dark : List Int) : Except Failure Palette :=
  if lit.length ≠ dark.length then .error (.unevenShape [2])
  else
    match bytesOfInts lit, bytesOfInts dark with
    | .ok lit, .ok dark => .ok ⟨lit, dark⟩
    | _, _ => .error .overflow

/-- The colour of a pixel. -/
def colour (palette : Palette) (on : Bool) : Colour :=
  if on then palette.lit else palette.dark

/-- Palettes by name. -/
def schemes : List (String × Palette) := [
  ("amber", ⟨[255, 176, 0], [0, 0, 0]⟩),
  ("blue", ⟨[0, 255, 255], [0, 0, 64]⟩),
  ("classic", ⟨[255, 255, 255], [0, 0, 0]⟩),
  ("green", ⟨[0, 255, 0], [0, 0, 0]⟩),
  ("retro", ⟨[255, 255, 0], [64, 0, 64]⟩)]

/-- The palette of a name. -/
def ofName (name : String) : Except Failure Palette :=
  match schemes.find? (·.1 == name) with
  | some (_, palette) => .ok palette
  | none => .error (.unknownScheme name (schemes.map (·.1)))

end Palette

/-- Rows of colours, from the top. -/
structure Picture where
  rows : List (List Colour)
  height : Nat
  width : Nat
  channels : Nat

namespace Picture

/-- How the picture of a raster is asked for by a caller: the raster, the scale, and the colours of
pixels that are on and off. -/
def signature : Signature where
  parameters := ["frame", "scale", "on_color", "off_color"]
  needed := ["frame"]

/-- Every item of a list so many times in a row. -/
def repeatEach {α : Type} (count : Nat) (items : List α) : List α :=
  items.flatMap (List.replicate count)

/-- Each pixel blown up to a block. -/
def enlarged (picture : Picture) (scale : Nat) : Picture :=
  { picture with
    rows := repeatEach scale (picture.rows.map (repeatEach scale))
    height := picture.height * scale
    width := picture.width * scale }

/-- Each pixel blown up to a block; a scale below two changes nothing. The extents of a block must
be signed 64-bit numbers. -/
def scaled (picture : Picture) (scale : Int) : Except Failure Picture :=
  if scale ≤ 1 then .ok picture
  else if scale < 0x8000000000000000 then .ok (picture.enlarged scale.toNat)
  else .error .overflow

/-- Pixels in the colours of a palette. -/
def ofRows (palette : Palette) (pixels : List (List Bool)) : Picture where
  rows := pixels.map fun row => row.map palette.colour
  height := 32
  width := 64
  channels := palette.lit.length

/-- The picture of a raster in colours given as numbers. The raster is looked at first. -/
def render (raster : Raster) (scale : Int) (lit dark : List Int) : Except Failure Picture := do
  let pixels ← raster.rows
  let palette ← Palette.ofInts lit dark
  (ofRows palette pixels).scaled scale

/-- Columns in place of rows. -/
def columns : List (List Colour) → Nat → List (List Colour)
  | [], width => List.replicate width []
  | row :: rest, width => List.zipWith (· :: ·) row (columns rest width)

/-- The picture turned so that columns become rows. -/
def transposed (picture : Picture) : Picture where
  rows := columns picture.rows picture.width
  height := picture.width
  width := picture.height
  channels := picture.channels

/-- The picture of a raster column by column, as the surface of a window takes it. -/
def columnsOf (raster : Raster) (scale : Int) (palette : Palette) : Except Failure Picture :=
  raster.rows.bind fun pixels => (ofRows palette pixels).transposed.scaled scale

end Picture

end Chip8
