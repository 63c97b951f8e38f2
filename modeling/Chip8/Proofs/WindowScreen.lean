import Chip8.Proofs.Frames
import Chip8.Proofs.Pictures
import Chip8.Proofs.Repainting

/-!
# What a window shows

A window shows every screen that its machine hands out. Between two frames, the surface it showed
last was made of the current screen (`Current`). Within a frame that screen is the canvas which
cycles and ticks keep up to date, in the sense of `State.UpToDate`: at the end of the frame the
machine hands the screen out, or the screen is still the canvas. So a frame that completes leaves
the window current (`current_play`), and with that every frame of a run does.
-/

namespace Chip8.Window

/-- The surface that a call shows. -/
def Call.surface? : Call → Option Picture
  | .blit surface => some surface
  | _ => none

/-- The surface that was shown last. -/
def lastSurface? (calls : List Call) : Option Picture :=
  (calls.filterMap Call.surface?).getLast?

theorem lastSurface?_append (earlier later : List Call) :
    lastSurface? (earlier ++ later) = (lastSurface? later).or (lastSurface? earlier) := by
  rw [lastSurface?, List.filterMap_append, List.getLast?_append, lastSurface?, lastSurface?]

/-! ## Canvases -/

/-- The calls show a canvas: the last surface was made of it, or there is none and it is off. -/
def Depicts (scale : Int) (palette : Palette) (calls : List Call) (canvas : Frame) : Prop :=
  match lastSurface? calls with
  | some surface => Picture.columnsOf (.ofFrame canvas) scale palette = .ok surface
  | none => canvas = Frame.blank

/-- Calls that show no surface leave a canvas as it is. -/
theorem Depicts.append {scale : Int} {palette : Palette} {calls : List Call} {canvas : Frame}
    (depicts : Depicts scale palette calls canvas) {further : List Call}
    (none : lastSurface? further = none) :
    Depicts scale palette (calls ++ further) canvas := by
  rwa [Depicts, lastSurface?_append, none, Option.none_or]

/-- A surface made of a canvas is shown over all others. -/
theorem depicts_append {scale : Int} {palette : Palette} {surface : Picture} {canvas : Frame}
    (made : Picture.columnsOf (.ofFrame canvas) scale palette = .ok surface) (calls : List Call)
    {further : List Call} (shown : lastSurface? further = some surface) :
    Depicts scale palette (calls ++ further) canvas := by
  rwa [Depicts, lastSurface?_append, shown, Option.some_or]

/-! ## One frame -/

section Frame

variable {settings : Settings} {palette : Palette} {around : Surroundings} {machine : Machine}
  {keypad : Keypad} {moment : Moment} {canvas : Frame}

/-- A canvas stays up to date through the cycles of a frame. -/
theorem upToDate_runCycles (current : machine.state.UpToDate canvas) :
    (runCycles (withKeys machine keypad) around).machine.state.UpToDate canvas := by
  rw [state_runCycles]
  exact State.upToDate_steps _ (State.upToDate_quietChange ⟨_, _, _, _, _, rfl⟩ current)

/-- When the screen is presented, the canvas painted over is the screen. -/
theorem depicts_present {scale : Int} {calls shownCalls : List Call}
    (current : machine.state.UpToDate canvas) (depicts : Depicts scale palette calls canvas)
    (shown : (present machine scale palette).result = .ok shownCalls) :
    Depicts scale palette (calls ++ frameTick :: shownCalls)
      (present machine scale palette).machine.state.screen.cells := by
  cases marked : machine.state.dirty with
  | true =>
    -- the screen is handed out, and what is shown is made of it
    simp only [present, Machine.takeFrame, State.takeFrame, marked, if_true, Outcome.andThen]
      at shown ⊢
    cases made : Picture.columnsOf (.ofFrame machine.state.screen.cells) scale palette with
    | error failure => simp [made, Except.map] at shown
    | ok surface =>
      simp only [made, Except.map, Except.ok.injEq] at shown
      subst shown
      exact depicts_append made calls rfl
  | false =>
    -- nothing is shown, but then the screen is the canvas that was painted before
    simp only [present, Machine.takeFrame, State.takeFrame, marked, Bool.false_eq_true, if_false,
      Outcome.andThen, Except.ok.injEq] at shown ⊢
    subst shown
    rw [current.cells_eq marked]
    exact depicts.append rfl

/-- The end of a frame: ticks of the timers leave the canvas up to date. -/
theorem depicts_refresh {scale : Int} {calls shownCalls : List Call}
    (current : machine.state.UpToDate canvas) (depicts : Depicts scale palette calls canvas)
    (shown : (refresh machine around scale palette).result = .ok shownCalls) :
    Depicts scale palette (calls ++ frameTick :: shownCalls)
      (refresh machine around scale palette).machine.state.screen.cells := by
  cases ticked : (machine.updateTimers around).result with
  | error failure =>
    rw [refresh, Outcome.andThen_of_error _ ticked] at shown
    contradiction
  | ok count =>
    rw [refresh, Outcome.andThen_of_ok _ ticked] at shown ⊢
    exact depicts_present
      (State.upToDate_quietChange (machine.quietChange_updateTimers around) current) depicts shown

end Frame

/-! ## Whole runs -/

/-- After some frames of a run, the window shows the screen of the machine. -/
def Current (settings : Settings) (palette : Palette) (past : List FrameOutcome)
    (machine : Machine) : Prop :=
  Depicts settings.scale palette (opening settings ++ past.flatMap FrameOutcome.calls)
    machine.state.screen.cells

section Run

variable {settings : Settings} {palette : Palette}

/-- A window that just opened shows the screen: nothing, and the screen is off. -/
theorem current_opened {around : Surroundings} {machine : Machine}
    (opened : opened? settings around = some (machine, palette)) :
    Current settings palette [] machine := by
  obtain ⟨key, -, -, -, rfl⟩ := loaded_of_opened opened
  obtain ⟨_, _, _, _, _, same⟩ := Machine.quietChange_load
    (Machine.create key (logger settings around.now) .absent) around (.file settings.program)
  rw [Current, same]
  rfl

/-- If a window shows the screen before a frame, it shows it after the frame if that completes. -/
theorem current_play {moment : Moment} {before : Surroundings} {machine : Machine}
    {keypad : Keypad} {past : List FrameOutcome} (current : Current settings palette past machine) :
    let done := moment.play settings palette before machine keypad
    done.Completes → Current settings palette (past ++ [done]) done.machine := by
  intro done completed
  rw [Current, List.flatMap_append, List.flatMap_singleton, ← List.append_assoc]
  cases frameCases settings palette (moment.around before) machine keypad moment.events with
  | faulted _ _ _ _ verdict =>
    simp [done, Moment.play, FrameOutcome.Completes, verdict] at completed
  | raised _ _ verdict =>
    simp [done, Moment.play, FrameOutcome.Completes, verdict] at completed
  | completed shownCalls _ shown ready made _ =>
    simp only [done, Moment.play, ready, made]
    exact depicts_refresh (upToDate_runCycles (.inr rfl)) current shown

end Run

end Chip8.Window
