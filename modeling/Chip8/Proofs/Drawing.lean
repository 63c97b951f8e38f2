import Chip8.Proofs.CycleCases

/-!
# Drawing a sprite

A machine finds out of each pixel how far it lies behind the corner of the sprite, and whether the
sprite has a bit there. Seen from the sprite, each of its bits falls on a pixel, and each axis wraps
around by itself: `Sprite.FallsOn`. Both say the same of every sprite that is no higher than the
screen (`Sprite.lights_iff`). So a word `DXYN` flips the pixels that bits of the sprite fall on
(`State.pixel_execute_draw`), and its flag tells whether one of them was on.
-/

namespace Chip8

namespace Sprite

/-- A bit of the sprite of `height` rows at address `index`, drawn at `(left, top)`, falls on a
pixel. -/
def FallsOn (memory : Memory) (index height left top : Nat) (x : Fin 64) (y : Fin 32) : Prop :=
  ∃ row < height, ∃ column < 8, x.val = (left + column) % 64 ∧ y.val = (top + row) % 32 ∧
    (memory.read (index + row)).toNat.testBit (7 - column) = true

/-- A sprite lights the pixels that its bits fall on. -/
theorem lights_iff (memory : Memory) (index left top : Nat) {height : Nat} (short : height ≤ 32)
    (x : Fin 64) (y : Fin 32) :
    lights memory index height left top x y = true ↔
      FallsOn memory index height left top x y := by
  simp only [lights, Bool.and_eq_true, decide_eq_true_eq]
  constructor
  · rintro ⟨⟨narrow, low⟩, bit⟩
    exact ⟨_, low, _, narrow, (add_offset left x.isLt).symm, (add_offset top y.isLt).symm, bit⟩
  · rintro ⟨row, low, column, narrow, across, down, bit⟩
    -- a bit lies less than once around behind the corner, so its pixel has no other offset
    have columnOffset : offset 64 left x = column := by
      rw [across, offset_add (by decide) left (by omega)]
    have rowOffset : offset 32 top y = row := by
      rw [down, offset_add (by decide) top (by omega)]
    rw [columnOffset, rowOffset]
    exact ⟨⟨narrow, low⟩, bit⟩

end Sprite

theorem flag_eq_one_iff (condition : Bool) : flag condition = 1 ↔ condition = true := by
  cases condition <;> decide

theorem flag_eq_zero_iff (condition : Bool) : flag condition = 0 ↔ ¬ condition = true := by
  cases condition <;> decide

/-- Screen and sprite overlap where flipping turns a pixel off. -/
theorem Screen.overlaps_iff_goesOff (screen sprite : Screen) :
    screen.overlaps sprite = true ↔
      ∃ px py, screen.pixel px py = true ∧ (screen.flip sprite).pixel px py = false := by
  rw [overlaps_iff]
  refine exists_congr fun px => exists_congr fun py => and_congr_right fun lit => ?_
  rw [pixel_flip, lit, Bool.true_xor, Bool.not_eq_false']

namespace State

variable {state : State} {word : UInt16} {x y n : Fin 16}

/-- The sprite that a word `DXYN` draws, as a screen of its own. -/
def sprite (state : State) (x y n : Fin 16) : Screen :=
  Sprite.mask state.memory state.index.toNat n (state.registers.get x).toNat
    (state.registers.get y).toNat

theorem pixel_sprite_iff (state : State) (x y n : Fin 16) (px : Fin 64) (py : Fin 32) :
    (state.sprite x y n).pixel px py = true ↔
      Sprite.FallsOn state.memory state.index.toNat n (state.registers.get x).toNat
        (state.registers.get y).toNat px py := by
  rw [sprite, Sprite.pixel_mask]
  exact Sprite.lights_iff _ _ _ _ (by omega) px py

/-- What a word `DXYN` does whose sprite lies in memory. -/
theorem execute_draw (digits : word.toNat = 0xD000 + 0x100 * x + 0x10 * y + n)
    (inside : state.index.toNat + n ≤ 4096) :
    state.execute word = { state with
      screen := state.screen.flip (state.sprite x y n)
      dirty := true
      registers := state.registers.set Layout.flagRegister
        (flag (state.screen.overlaps (state.sprite x y n)))
      pc := state.pc + 2
      opcode := word } := by
  have left : (Operands.ofWord word).x = x := by
    have named := Operands.val_x_ofWord word
    omega
  have top : (Operands.ofWord word).y = y := by
    have named := Operands.val_y_ofWord word
    omega
  have height : (Operands.ofWord word).n = n := by
    have named := Operands.val_n_ofWord word
    omega
  have shape : word.toNat =
      Form.draw.row.pattern.toNat + Form.draw.free (Operands.ofWord word) := by
    have address := Operands.val_nnn_ofWord word
    simp only [Form.row, Form.free, UInt16.reduceToNat]
    omega
  have safe : Form.draw.hazard? (Operands.ofWord word) state = none := by
    rw [Form.hazard?, height]
    exact Form.reach?_of_inside inside
  rw [execute_of_digits .draw (by decide) shape safe]
  simp only [Form.effect, Form.drawSprite, left, top, height]
  rfl

/-- Drawing flips the pixels that bits of the sprite fall on. -/
theorem pixel_execute_draw (digits : word.toNat = 0xD000 + 0x100 * x + 0x10 * y + n)
    (inside : state.index.toNat + n ≤ 4096) (px : Fin 64) (py : Fin 32) :
    (state.execute word).screen.pixel px py =
      (state.screen.pixel px py ^^ (state.sprite x y n).pixel px py) := by
  rw [execute_draw digits inside]
  exact Screen.pixel_flip _ _ px py

/-- **Drawing.** A word `DXYN` whose sprite lies in memory flips just the pixels that bits of the
sprite fall on, around both edges, with the corner as the registers gave it before. The flag
register is one if some pixel went off, and else zero. The screen is marked as changed, the program
counter moves on, the word is recorded, and nothing else changes. -/
theorem draw_exact (digits : word.toNat = 0xD000 + 0x100 * x + 0x10 * y + n)
    (inside : state.index.toNat + n ≤ 4096) :
    let after := state.execute word
    (∀ px py, ∃ bit : Bool,
      after.screen.pixel px py = (state.screen.pixel px py ^^ bit) ∧
      (bit = true ↔ Sprite.FallsOn state.memory state.index.toNat n
        (state.registers.get x).toNat (state.registers.get y).toNat px py)) ∧
    (after.registers.get 0xF = 1 ↔
      ∃ px py, state.screen.pixel px py = true ∧ after.screen.pixel px py = false) ∧
    (after.registers.get 0xF = 0 ↔
      ¬ ∃ px py, state.screen.pixel px py = true ∧ after.screen.pixel px py = false) ∧
    (∀ register, register ≠ 0xF → after.registers.get register = state.registers.get register) ∧
    after = { state with
      screen := after.screen
      registers := after.registers
      dirty := true
      pc := state.pc + 2
      opcode := word } := by
  intro after
  have drawn : after = _ := execute_draw digits inside
  have told : after.registers.get 0xF = flag (state.screen.overlaps (state.sprite x y n)) := by
    rw [drawn]
    exact Registers.get_set_self _ _ _
  have shown : after.screen = state.screen.flip (state.sprite x y n) := by rw [drawn]
  refine ⟨fun px py => ⟨(state.sprite x y n).pixel px py, pixel_execute_draw digits inside px py,
    pixel_sprite_iff state x y n px py⟩, ?_, ?_, ?_, ?_⟩
  · rw [told, shown, flag_eq_one_iff, Screen.overlaps_iff_goesOff]
  · rw [told, shown, flag_eq_zero_iff, Screen.overlaps_iff_goesOff]
  · intro register other
    rw [drawn, Registers.get_set]
    exact if_neg (Ne.symm other)
  · rw [drawn]

/-- The digit zero is drawn around the lower right corner, with the flag register for its place
across. It falls on a pixel that was on. -/
theorem draw_exact_around_corner :
    let state := { fresh ⟨0, 0⟩ with
      index := 0x50
      registers := (Registers.zero.set 0xF 62).set 1 31
      screen := Screen.ofFn fun px py => px = 1 && py = 0 }
    let after := state.execute 0xDF15
    (0xDF15 : UInt16).toNat = 0xD000 + 0x100 * 0xF + 0x10 * 1 + 5 ∧ state.index.toNat + 5 ≤ 4096 ∧
      state.screen.pixel 1 0 = true ∧ after.screen.pixel 1 0 = false ∧
      after.registers.get 0xF = 1 ∧ after.dirty = true := by
  intro state after
  have digits : (0xDF15 : UInt16).toNat = 0xD000 + 0x100 * 0xF + 0x10 * 1 + 5 := by decide
  have inside : state.index.toNat + 5 ≤ 4096 := by decide
  obtain ⟨pixels, collides, -, -, whole⟩ := @draw_exact state 0xDF15 0xF 1 5 digits inside
  have lit : state.screen.pixel 1 0 = true := by
    simp only [state, Screen.pixel_ofFn]
    decide
  obtain ⟨bit, flipped, falls⟩ := pixels 1 0
  have falling : bit = true :=
    falls.mpr ⟨1, by decide, 3, by decide, by decide +kernel, by decide +kernel, by decide +kernel⟩
  rw [lit, falling, Bool.xor_self] at flipped
  exact ⟨digits, inside, lit, flipped, collides.mpr ⟨1, 0, lit, flipped⟩,
    congrArg State.dirty whole⟩

end State

end Chip8
