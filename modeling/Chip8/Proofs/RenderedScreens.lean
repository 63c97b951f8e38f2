import Chip8.Proofs.Pictures

/-!
# Rendered screens

A screen that comes column by column and the frame that a machine hands out of it have the same rows
of pixels (`Raster.rows_ofScreen`), and nothing else of a raster goes into its picture. So both are
rendered to one picture, or refused alike. Scaling multiplies the extents of a picture
(`Picture.Spans.scaled`), and each pixel of the screen becomes a block in the colour it takes.
-/

namespace Chip8

/-- Numbers of a byte each become bytes that stand for them. -/
theorem bytesOfInts_of_bytes {values : List Int}
    (small : ∀ value ∈ values, 0 ≤ value ∧ value < 256) :
    ∃ data, bytesOfInts values = .ok data ∧
      data.map (fun byte => (byte.toNat : Int)) = values := by
  induction values with
  | nil => exact ⟨[], rfl, rfl⟩
  | cons value rest ih =>
    obtain ⟨first, later⟩ := List.forall_mem_cons.mp small
    obtain ⟨data, made, stands⟩ := ih later
    refine ⟨UInt8.ofNat value.toNat :: data, ?_, ?_⟩
    · rw [bytesOfInts, if_pos first, made]
      rfl
    · rw [List.map_cons, stands, UInt8.toNat_ofNat_of_lt' (by simp [UInt8.size]; omega)]
      rw [Int.toNat_of_nonneg first.1]

theorem State.eq_of_takeFrame {state : State} {frame : Frame}
    (handed : state.takeFrame.2 = some frame) : frame = state.screen.cells := by
  unfold takeFrame at handed
  split at handed
  · exact (Option.some.inj handed).symm
  · contradiction

namespace Raster

/-- A screen that comes column by column has a pixel where its column holds its row. -/
theorem cell_ofScreen (screen : Screen) (x : Fin 64) (y : Fin 32) :
    (ofScreen screen).cell (32 * x + y) = screen.pixel x y := by
  have inside : 32 * x.val + y.val < 2048 := by omega
  have column : (32 * x.val + y.val) / 32 = x.val := by omega
  have row : (32 * x.val + y.val) % 32 = y.val := by omega
  rw [cell, ofScreen, Array.getD_eq_getD_getElem?, Array.getElem?_ofFn, dif_pos inside,
    Option.getD_some]
  simp only [column, row]

theorem grid_congr {height width : Nat} {lit other : Nat → Nat → Bool}
    (alike : ∀ x < width, ∀ y < height, lit x y = other x y) :
    grid height width lit = grid height width other :=
  List.map_congr_left fun y above => List.map_congr_left fun x left =>
    alike x (List.mem_range.mp left) y (List.mem_range.mp above)

/-- Both layouts of a screen have the same rows of pixels. -/
theorem rows_ofScreen (screen : Screen) :
    (ofScreen screen).rows = (ofFrame screen.cells).rows := by
  refine congrArg Except.ok (grid_congr fun x left y above => ?_)
  exact (cell_ofScreen screen ⟨x, left⟩ ⟨y, above⟩).trans
    (cell_ofFrame screen ⟨x, left⟩ ⟨y, above⟩).symm

theorem rows_of_other_shape {raster : Raster} (tall : raster.shape ≠ [64, 32])
    (flat : raster.shape ≠ [2048]) : raster.rows = .error (.frameShape raster.shape) := by
  rw [rows, if_neg tall, if_neg flat]

end Raster

/-- Colours given as bytes make up the palette that stands for them. -/
theorem Palette.ofInts_of_bytes {lit dark : List Int} (alike : lit.length = dark.length)
    (litBytes : ∀ part ∈ lit, 0 ≤ part ∧ part < 256)
    (darkBytes : ∀ part ∈ dark, 0 ≤ part ∧ part < 256) :
    ∃ palette, ofInts lit dark = .ok palette ∧ ∀ on,
      (palette.colour on).map (fun part => (part.toNat : Int)) = if on then lit else dark := by
  obtain ⟨litData, litMade, litStands⟩ := bytesOfInts_of_bytes litBytes
  obtain ⟨darkData, darkMade, darkStands⟩ := bytesOfInts_of_bytes darkBytes
  refine ⟨⟨litData, darkData⟩, ?_, fun on => ?_⟩
  · rw [ofInts, if_neg (not_not_intro alike), litMade, darkMade]
  · cases on with
    | true => exact litStands
    | false => exact darkStands

namespace Picture

/-! ## Extents -/

/-- A picture has so many rows of so many pixels each. -/
structure Spans (picture : Picture) (height width : Nat) : Prop where
  height_eq : picture.height = height
  width_eq : picture.width = width
  rows : picture.rows.length = height
  row : ∀ row ∈ picture.rows, row.length = width

theorem length_repeatEach {α : Type} (count : Nat) (items : List α) :
    (repeatEach count items).length = items.length * count := by
  induction items with
  | nil => simp [repeatEach]
  | cons item rest ih =>
    rw [repeatEach, List.flatMap_cons, List.length_append, List.length_replicate]
    rw [repeatEach] at ih
    rw [ih, List.length_cons, Nat.succ_mul, Nat.add_comm]

theorem Spans.enlarged {picture : Picture} {height width : Nat}
    (spans : picture.Spans height width) (scale : Nat) :
    (picture.enlarged scale).Spans (height * scale) (width * scale) where
  height_eq := congrArg (· * scale) spans.height_eq
  width_eq := congrArg (· * scale) spans.width_eq
  rows := by
    rw [Picture.enlarged, length_repeatEach, List.length_map, spans.rows]
  row row among := by
    obtain ⟨block, listed, inside⟩ := List.mem_flatMap.mp among
    obtain ⟨line, lined, rfl⟩ := List.mem_map.mp listed
    obtain rfl := List.eq_of_mem_replicate inside
    rw [length_repeatEach, spans.row line lined]

/-- Scaling multiplies both extents; a scale below one counts as one. -/
theorem Spans.scaled {picture bigger : Picture} {height width : Nat}
    (spans : picture.Spans height width) {scale : Int} (fits : picture.scaled scale = .ok bigger) :
    bigger.Spans (height * (max scale 1).toNat) (width * (max scale 1).toNat) := by
  unfold Picture.scaled at fits
  split at fits
  · next least =>
    cases fits
    rwa [Int.max_eq_right least, Int.toNat_one, Nat.mul_one, Nat.mul_one]
  · next large =>
    split at fits
    · cases fits
      rw [Int.max_eq_left (by omega)]
      exact spans.enlarged scale.toNat
    · contradiction

theorem spans_ofRows_grid (palette : Palette) (lit : Nat → Nat → Bool) :
    (ofRows palette (Raster.grid 32 64 lit)).Spans 32 64 where
  height_eq := rfl
  width_eq := rfl
  rows := by simp [ofRows, Raster.grid]
  row := by simp [ofRows, Raster.grid]

/-! ## Rendering -/

/-- Nothing but the rows of a raster goes into its picture. -/
theorem render_congr {first second : Raster} (alike : first.rows = second.rows) (scale : Int)
    (lit dark : List Int) : render first scale lit dark = render second scale lit dark := by
  rw [render, alike, render]

/-- In colours that are bytes, a screen is rendered as its pixels scaled up. -/
theorem render_ofScreen {lit dark : List Int} {palette : Palette}
    (made : Palette.ofInts lit dark = .ok palette) (screen : Screen) (scale : Int) :
    render (.ofScreen screen) scale lit dark =
      (ofRows palette (Raster.grid 32 64 fun x y =>
        (Raster.ofFrame screen.cells).cell (x + 64 * y))).scaled scale := by
  rw [render_congr (Raster.rows_ofScreen screen), render, made]
  rfl

/-- **Both layouts render alike, and the picture is the scaled screen.** The frame that is handed
out of a machine is rendered as its screen is, at every scale and in all colours. At a scale below
`2 ^ 63` and in colours whose parts are bytes there is a picture: a scale below one counts as one,
the extents of the screen are multiplied by the scale, and each pixel is a block in the colour it
takes. A greater scale is refused, and so is a raster of any other shape. -/
theorem layouts_render_alike (state : State) {lit dark : List Int}
    (alike : lit.length = dark.length)
    (litBytes : ∀ part ∈ lit, 0 ≤ part ∧ part < 256)
    (darkBytes : ∀ part ∈ dark, 0 ≤ part ∧ part < 256) :
    (∀ frame, state.takeFrame.2 = some frame → ∀ scale on off,
      render (.ofScreen state.screen) scale on off = render (.ofFrame frame) scale on off) ∧
    (∀ scale : Int, scale < 0x8000000000000000 →
      let block := (max scale 1).toNat
      ∃ picture, render (.ofScreen state.screen) scale lit dark = .ok picture ∧
        picture.Spans (32 * block) (64 * block) ∧
        ∀ (row column : Nat) (above : row < block * 32) (left : column < block * 64),
          (picture.at? row column).map (List.map fun part => (part.toNat : Int)) =
            some (if state.screen.pixel ⟨column / block, Nat.div_lt_of_lt_mul left⟩
              ⟨row / block, Nat.div_lt_of_lt_mul above⟩ then lit else dark)) ∧
    (∀ scale : Int, 0x8000000000000000 ≤ scale →
      render (.ofScreen state.screen) scale lit dark = .error .overflow) ∧
    ∀ raster : Raster, raster.shape ≠ [64, 32] → raster.shape ≠ [2048] → ∀ scale on off,
      render raster scale on off = .error (.frameShape raster.shape) := by
  obtain ⟨palette, made, colours⟩ := Palette.ofInts_of_bytes alike litBytes darkBytes
  refine ⟨fun frame handed scale on off => ?_, fun scale small => ?_, fun scale large => ?_,
    fun raster tall flat scale on off => ?_⟩
  · rw [State.eq_of_takeFrame handed]
    exact render_congr (Raster.rows_ofScreen state.screen) scale on off
  · intro block
    let pixels := Raster.grid 32 64 fun x y =>
      (Raster.ofFrame state.screen.cells).cell (x + 64 * y)
    obtain ⟨picture, fits⟩ : ∃ picture, (ofRows palette pixels).scaled scale = .ok picture :=
      scaled_of_lt _ small
    refine ⟨picture, (render_ofScreen made state.screen scale).trans fits,
      (spans_ofRows_grid palette _).scaled fits, fun row column above left => ?_⟩
    have shown := at?_ofRows_ofFrame palette state.screen ⟨column / block,
      Nat.div_lt_of_lt_mul left⟩ ⟨row / block, Nat.div_lt_of_lt_mul above⟩
    rw [at?_scaled fits row column, shown, Option.map_some, colours]
  · rw [render_ofScreen made, scaled, if_neg (by omega), if_neg (by omega)]
  · rw [render, Raster.rows_of_other_shape tall flat]
    rfl

/-- The frame of a screen whose one lit pixel is in the fourth column and the second row, at twice
the size. Where rows and columns are exchanged it is dark. -/
theorem layouts_render_alike_off_diagonal :
    let state := { State.fresh ⟨0, 0⟩ with
      screen := Screen.ofFn fun x y => x = 3 && y = 1
      dirty := true }
    let lit : List Int := [255, 176, 0]
    let dark : List Int := [0, 0, 64]
    (lit.length = dark.length ∧ (∀ part ∈ lit, 0 ≤ part ∧ part < 256) ∧
      ∀ part ∈ dark, 0 ≤ part ∧ part < 256) ∧
    ∃ frame picture, state.takeFrame.2 = some frame ∧
      render (.ofFrame frame) 2 lit dark = .ok picture ∧ picture.Spans 64 128 ∧
      (picture.at? 3 7).map (List.map fun part => (part.toNat : Int)) = some lit ∧
      (picture.at? 7 3).map (List.map fun part => (part.toNat : Int)) = some dark := by
  intro state lit dark
  have alike : lit.length = dark.length := rfl
  have litBytes : ∀ part ∈ lit, 0 ≤ part ∧ part < 256 := by decide
  have darkBytes : ∀ part ∈ dark, 0 ≤ part ∧ part < 256 := by decide
  obtain ⟨layouts, scales, -, -⟩ := layouts_render_alike state alike litBytes darkBytes
  obtain ⟨picture, made, spans, shows⟩ := scales 2 (by decide)
  have handed : state.takeFrame.2 = some state.screen.cells := rfl
  refine ⟨⟨alike, litBytes, darkBytes⟩, _, picture, handed,
    (layouts _ handed 2 lit dark).symm.trans made, spans, ?_, ?_⟩
  · refine (shows 3 7 (by decide) (by decide)).trans ?_
    rw [Screen.pixel_ofFn]
    rfl
  · refine (shows 7 3 (by decide) (by decide)).trans ?_
    rw [Screen.pixel_ofFn]
    rfl

/-- At a scale of 64 bits there is no picture, although the colours are bytes. -/
theorem no_picture_at_large_scale :
    let lit : List Int := [255, 255, 255]
    let dark : List Int := [0, 0, 0]
    (∀ part ∈ lit ++ dark, 0 ≤ part ∧ part < 256) ∧
      ¬ ∃ picture, render (.ofScreen Screen.blank) 0x8000000000000000 lit dark = .ok picture := by
  intro lit dark
  refine ⟨by decide, ?_⟩
  rintro ⟨picture, made⟩
  have palette : Palette.ofInts lit dark = .ok ⟨[255, 255, 255], [0, 0, 0]⟩ := rfl
  rw [render_ofScreen palette, scaled, if_neg (by decide), if_neg (by decide)] at made
  contradiction

end Picture

end Chip8
