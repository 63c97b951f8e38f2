import Chip8.Proofs.Drawing

/-!
# Drawing again, and in another order

What a sprite lights depends on memory, on where its bytes lie and on the two registers that give
its corner. Drawing changes none of these, unless the flag register gives the corner; it flips
pixels, and flips cancel each other and may change places. So a sprite that is drawn twice is gone
again, and sprites drawn in any order leave the same screen: `State.draws_cancel_and_commute`.
-/

namespace Chip8

namespace Screen

variable (screen sprite other : Screen)

theorem flip_flip : (screen.flip sprite).flip sprite = screen := by
  refine ext_pixel fun px py => ?_
  rw [pixel_flip, pixel_flip, Bool.xor_assoc, Bool.xor_self, Bool.xor_false]

theorem flip_right_comm : (screen.flip sprite).flip other = (screen.flip other).flip sprite := by
  refine ext_pixel fun px py => ?_
  simp only [pixel_flip]
  exact Bool.xor_right_comm _ _ _

/-- After a flip, the screen is on where it was off under the sprite. -/
theorem overlaps_flip_iff : (screen.flip sprite).overlaps sprite = true ↔
    ∃ px py, sprite.pixel px py = true ∧ screen.pixel px py = false := by
  rw [overlaps_iff]
  refine exists_congr fun px => exists_congr fun py => ?_
  rw [and_comm, pixel_flip]
  refine and_congr_right fun lit => ?_
  rw [lit, Bool.xor_true, Bool.not_eq_true']

end Screen

/-! ## What drawing leaves alone -/

namespace State

variable {before after later : State}

/-- Memory and the registers but for the flag are the same. -/
structure SameScene (before after : State) : Prop where
  memory : after.memory = before.memory
  registers : ∀ register, register ≠ 0xF →
    after.registers.get register = before.registers.get register

theorem SameScene.trans (first : SameScene before after) (second : SameScene after later) :
    SameScene before later where
  memory := second.memory.trans first.memory
  registers register plain :=
    (second.registers register plain).trans (first.registers register plain)

/-- The same sprite is drawn in the same scene. -/
theorem SameScene.sprite (same : SameScene before after) (index : after.index = before.index)
    {x y : Fin 16} (across : x ≠ 0xF) (down : y ≠ 0xF) (n : Fin 16) :
    after.sprite x y n = before.sprite x y n := by
  rw [State.sprite, State.sprite, same.memory, index, same.registers x across,
    same.registers y down]

variable {state : State} {word : UInt16} {x y n : Fin 16}

theorem sameScene_execute_draw (digits : word.toNat = 0xD000 + 0x100 * x + 0x10 * y + n)
    (inside : state.index.toNat + n ≤ 4096) : SameScene state (state.execute word) where
  memory := by rw [execute_draw digits inside]
  registers register plain := by
    rw [execute_draw digits inside]
    exact Registers.get_set_of_ne _ _ plain

/-- A sprite that is drawn again is gone. -/
theorem execute_draw_again (digits : word.toNat = 0xD000 + 0x100 * x + 0x10 * y + n)
    (inside : state.index.toNat + n ≤ 4096) (across : x ≠ 0xF) (down : y ≠ 0xF) :
    (state.execute word).execute word = { state with
      dirty := true
      registers := state.registers.set Layout.flagRegister
        (flag ((state.screen.flip (state.sprite x y n)).overlaps (state.sprite x y n)))
      pc := state.pc + 4
      opcode := word } := by
  have drawn := execute_draw digits inside
  have index : (state.execute word).index = state.index := by rw [drawn]
  have again : (state.execute word).sprite x y n = state.sprite x y n :=
    (sameScene_execute_draw digits inside).sprite index across down n
  have four : state.pc + 2 + 2 = state.pc + 4 := UInt16.add_assoc _ _ _
  rw [execute_draw digits (by rw [index]; exact inside), again, drawn]
  simp only [Screen.flip_flip, Registers.set_set, four]

/-! ## Sprites one after another -/

/-- What a word `ANNN` does. -/
theorem execute_setIndex {nnn : Fin 4096} (digits : word.toNat = 0xA000 + nnn) :
    state.execute word =
      { state with index := UInt16.ofNat nnn, pc := state.pc + 2, opcode := word } := by
  have address : (Operands.ofWord word).nnn = nnn := by
    have named := Operands.val_nnn_ofWord word
    omega
  rw [execute_of_digits .setIndex (by decide) (by rw [Form.free, address]; exact digits) rfl,
    ← address]
  rfl

end State

/-- A sprite to be drawn by a word `DXYN` after a word `ANNN` that says where its bytes lie. They
lie in memory, and the flag register does not give the corner. -/
structure Stroke where
  address : Fin 4096
  x : Fin 16
  y : Fin 16
  n : Fin 16
  inside : address.val + n ≤ 4096
  across : x ≠ 0xF
  down : y ≠ 0xF

namespace Stroke

/-- The word that says where the bytes lie. -/
def aim (stroke : Stroke) : UInt16 :=
  UInt16.ofNat (0xA000 + stroke.address)

/-- The word that draws. -/
def draw (stroke : Stroke) : UInt16 :=
  UInt16.ofNat (0xD000 + 0x100 * stroke.x + 0x10 * stroke.y + stroke.n)

/-- Where the bytes lie, as the index register holds it. -/
def index (stroke : Stroke) : UInt16 :=
  UInt16.ofNat stroke.address

theorem toNat_aim (stroke : Stroke) : stroke.aim.toNat = 0xA000 + stroke.address :=
  UInt16.toNat_ofNat_of_lt (by rw [UInt16.size]; omega)

theorem toNat_draw (stroke : Stroke) :
    stroke.draw.toNat = 0xD000 + 0x100 * stroke.x + 0x10 * stroke.y + stroke.n :=
  UInt16.toNat_ofNat_of_lt (by rw [UInt16.size]; omega)

theorem toNat_index (stroke : Stroke) : stroke.index.toNat = stroke.address :=
  UInt16.toNat_ofNat_of_lt (by rw [UInt16.size]; omega)

/-- What a stroke lights. -/
def sprite (stroke : Stroke) (state : State) : Screen :=
  { state with index := stroke.index }.sprite stroke.x stroke.y stroke.n

/-- A stroke lights the same in the same scene, wherever the index register points. -/
theorem sprite_of_sameScene (stroke : Stroke) {before after : State}
    (same : State.SameScene before after) : stroke.sprite after = stroke.sprite before := by
  have aimed : State.SameScene { before with index := stroke.index }
      { after with index := stroke.index } := ⟨same.memory, same.registers⟩
  exact aimed.sprite rfl stroke.across stroke.down stroke.n

end Stroke

namespace State

variable {state : State} {stroke : Stroke}

theorem inside_of_aimed (aimed : state.index = stroke.index) :
    state.index.toNat + stroke.n ≤ 4096 := by
  rw [aimed, stroke.toNat_index]
  exact stroke.inside

theorem screen_execute_stroke (aimed : state.index = stroke.index) :
    (state.execute stroke.draw).screen = state.screen.flip (stroke.sprite state) := by
  rw [execute_draw stroke.toNat_draw (inside_of_aimed aimed), Stroke.sprite, ← aimed]

/-- Says where the bytes lie, and draws. -/
def drawStroke (state : State) (stroke : Stroke) : State :=
  (state.execute stroke.aim).execute stroke.draw

def drawStrokes (state : State) (strokes : List Stroke) : State :=
  strokes.foldl drawStroke state

theorem execute_aim (state : State) (stroke : Stroke) : state.execute stroke.aim =
    { state with index := stroke.index, pc := state.pc + 2, opcode := stroke.aim } :=
  execute_setIndex stroke.toNat_aim

theorem sameScene_drawStroke (state : State) (stroke : Stroke) :
    SameScene state (state.drawStroke stroke) := by
  have aimed : (state.execute stroke.aim).index = stroke.index := by rw [execute_aim]
  have aim : SameScene state (state.execute stroke.aim) := by
    rw [execute_aim]
    exact ⟨rfl, fun _ _ => rfl⟩
  exact aim.trans (sameScene_execute_draw stroke.toNat_draw (inside_of_aimed aimed))

theorem screen_drawStroke (state : State) (stroke : Stroke) :
    (state.drawStroke stroke).screen = state.screen.flip (stroke.sprite state) := by
  rw [drawStroke, screen_execute_stroke (by rw [execute_aim]), execute_aim]
  rfl

/-- Strokes flip, one after another, what they light in the state before the first. -/
theorem screen_drawStrokes (state : State) (strokes : List Stroke) :
    (state.drawStrokes strokes).screen =
      strokes.foldl (fun screen stroke => screen.flip (stroke.sprite state)) state.screen := by
  induction strokes generalizing state with
  | nil => rfl
  | cons stroke rest ih =>
    have lights : ∀ later : Stroke, later.sprite (state.drawStroke stroke) = later.sprite state :=
      fun later => later.sprite_of_sameScene (sameScene_drawStroke state stroke)
    change ((state.drawStroke stroke).drawStrokes rest).screen = _
    rw [ih, screen_drawStroke, List.foldl_cons]
    simp only [lights]

/-- Strokes may be drawn in any order. -/
theorem screen_drawStrokes_perm (state : State) {strokes others : List Stroke}
    (same : strokes.Perm others) :
    (state.drawStrokes strokes).screen = (state.drawStrokes others).screen := by
  rw [screen_drawStrokes, screen_drawStrokes]
  exact same.foldl_eq' (fun first _ second _ screen =>
    screen.flip_right_comm (first.sprite state) (second.sprite state)) state.screen

/-- Two strokes, of which the first one finds the index register set. -/
theorem screen_two_strokes (state : State) (first second : Stroke) :
    (({ state with index := first.index }.execute first.draw).drawStroke second).screen =
      (state.screen.flip (first.sprite state)).flip (second.sprite state) := by
  have aimed : { state with index := first.index }.index = first.index := rfl
  have same : SameScene state ({ state with index := first.index }.execute first.draw) := by
    have scene := sameScene_execute_draw first.toNat_draw (inside_of_aimed aimed)
    exact ⟨scene.memory, scene.registers⟩
  rw [screen_drawStroke, screen_execute_stroke aimed, second.sprite_of_sameScene same]
  rfl

/-- **Sprites cancel and may change places.** A word `DXYN` whose sprite lies in memory and whose
corner the flag register does not give, executed twice, leaves the screen as it was, and so all
else but the mark of a changed screen, the program counter, the executed word and the flag. The
flag is one if a bit of the sprite fell on a pixel that was off before, and else zero. Two such
words with their bytes at two addresses leave the same screen in either order, with a word `ANNN`
in between; and so do any number of them in any order. -/
theorem draws_cancel_and_commute (state : State) :
    (∀ (word : UInt16) (x y n : Fin 16), word.toNat = 0xD000 + 0x100 * x + 0x10 * y + n →
      x ≠ 0xF → y ≠ 0xF → state.index.toNat + n ≤ 4096 →
      let twice := (state.execute word).execute word
      let fallsOnDark := ∃ px py, state.screen.pixel px py = false ∧
        Sprite.FallsOn state.memory state.index.toNat n (state.registers.get x).toNat
          (state.registers.get y).toNat px py
      (twice.registers.get 0xF = 1 ↔ fallsOnDark) ∧
      (twice.registers.get 0xF = 0 ↔ ¬ fallsOnDark) ∧
      (∀ register, register ≠ 0xF →
        twice.registers.get register = state.registers.get register) ∧
      twice = { state with
        registers := twice.registers
        dirty := true
        pc := state.pc + 4
        opcode := word }) ∧
    (∀ first second : Stroke,
      (({ state with index := first.index }.execute first.draw).drawStroke second).screen =
        (({ state with index := second.index }.execute second.draw).drawStroke first).screen) ∧
    ∀ strokes others : List Stroke, strokes.Perm others →
      (state.drawStrokes strokes).screen = (state.drawStrokes others).screen := by
  refine ⟨?_, fun first second => ?_, fun strokes others same => screen_drawStrokes_perm state same⟩
  · intro word x y n digits across down inside twice fallsOnDark
    have drawn : twice = _ := execute_draw_again digits inside across down
    have told : twice.registers.get 0xF =
        flag ((state.screen.flip (state.sprite x y n)).overlaps (state.sprite x y n)) := by
      rw [drawn]
      exact Registers.get_set_self _ _ _
    have dark : (state.screen.flip (state.sprite x y n)).overlaps (state.sprite x y n) = true ↔
        fallsOnDark := by
      rw [Screen.overlaps_flip_iff]
      refine exists_congr fun px => exists_congr fun py => ?_
      rw [pixel_sprite_iff, and_comm]
    refine ⟨?_, ?_, ?_, ?_⟩
    · rw [told, flag_eq_one_iff, dark]
    · rw [told, flag_eq_zero_iff, dark]
    · intro register plain
      rw [drawn]
      exact Registers.get_set_of_ne _ _ plain
    · rw [drawn]
  · rw [screen_two_strokes, screen_two_strokes, Screen.flip_right_comm]

/-- The digit zero is drawn twice around the lower right corner, where one of its pixels was on. The
digits zero and one are drawn there in both orders. -/
theorem draws_cancel_and_commute_around_corner :
    let state := { fresh ⟨0, 0⟩ with
      index := 0x50
      registers := (Registers.zero.set 0 62).set 1 30
      screen := Screen.ofFn fun px py => px = 62 && py = 30 }
    let twice := (state.execute 0xD015).execute 0xD015
    let zero : Stroke := ⟨0x50, 0, 1, 5, by decide, by decide, by decide⟩
    let one : Stroke := ⟨0x55, 0, 1, 5, by decide, by decide, by decide⟩
    (0xD015 : UInt16).toNat = 0xD000 + 0x100 * 0 + 0x10 * 1 + 5 ∧ state.index.toNat + 5 ≤ 4096 ∧
      twice.registers.get 0xF = 1 ∧ twice.screen = state.screen ∧ twice.pc = 0x204 ∧
      [zero, one, one].Perm [one, one, zero] ∧
      (state.drawStrokes [zero, one, one]).screen = (state.drawStrokes [one, one, zero]).screen := by
  intro state twice zero one
  have digits : (0xD015 : UInt16).toNat = 0xD000 + 0x100 * 0 + 0x10 * 1 + 5 := by decide
  have inside : state.index.toNat + 5 ≤ 4096 := by decide
  have order : [zero, one, one].Perm [one, one, zero] :=
    (List.Perm.swap one zero [one]).trans ((List.Perm.swap one zero []).cons one)
  obtain ⟨again, -, anyOrder⟩ := draws_cancel_and_commute state
  obtain ⟨tells, -, -, whole⟩ := again 0xD015 0 1 5 digits (by decide) (by decide) inside
  have dark : state.screen.pixel 63 30 = false := by
    simp only [state, Screen.pixel_ofFn]
    decide
  have falls : Sprite.FallsOn state.memory state.index.toNat 5
      (state.registers.get 0).toNat (state.registers.get 1).toNat 63 30 :=
    ⟨0, by decide, 1, by decide, by decide +kernel, by decide +kernel, by decide +kernel⟩
  have back : twice.screen = state.screen := (congrArg State.screen whole).trans rfl
  exact ⟨digits, inside, tells.mpr ⟨63, 30, dark, falls⟩, back, congrArg State.pc whole, order,
    anyOrder _ _ order⟩

end State

end Chip8
