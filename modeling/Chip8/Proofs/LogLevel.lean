import Chip8.Proofs.Frames

/-!
# Log levels of a window

At debug level a window runs the cycles of a frame one by one, and at any other level all at once.
Nothing but the log can tell. Only `runCycles` looks at the logger at all: the other parts of a
frame come out the same under any logger (the `_relogged` equations), and `runCycles_eq` says that
the two ways to run cycles come to the same machine with the same result. So frames and whole
scripts go alike, in step (`frame_relogged`, `alike_loop`), and `logLevel_invisible` follows.
-/

namespace Chip8

/-! ## Machines under another logger -/

/-- The machine with another logger. -/
def Machine.relogged (machine : Machine) (logger : Logger) : Machine :=
  { machine with logger }

namespace Outcome

variable {α β : Type}

/-- The outcome for the machine with another logger. -/
def relogged (outcome : Outcome α) (logger : Logger) : Outcome α :=
  { outcome with machine := outcome.machine.relogged logger }

theorem andThen_relogged (first : Outcome α) {rest : Machine → α → Outcome β} (logger : Logger)
    (same : ∀ machine value,
      rest (machine.relogged logger) value = (rest machine value).relogged logger) :
    (first.relogged logger).andThen rest = (first.andThen rest).relogged logger := by
  rcases first with ⟨machine, notes, _ | value⟩
  · rfl
  · simp only [andThen, relogged, same]

end Outcome

namespace Machine

variable (machine : Machine) (logger : Logger) (around : Surroundings)

theorem load_relogged (program : Program) :
    (machine.relogged logger).load around program =
      (machine.load around program).relogged logger := by
  simp only [load, relogged]
  split <;> rfl

theorem checkFault_relogged :
    (machine.relogged logger).checkFault = machine.checkFault.relogged logger := by
  simp only [checkFault, relogged]
  split <;> rfl

theorem run_relogged (count : Int) :
    (machine.relogged logger).run around count = (machine.run around count).relogged logger :=
  (machine.arriveAt around.now (machine.state.run count)).checkFault_relogged logger

theorem callHandler_relogged :
    (machine.relogged logger).callHandler = machine.callHandler.relogged logger := by
  simp only [callHandler, relogged]
  split <;> rfl

theorem deliverBeep_relogged :
    (machine.relogged logger).deliverBeep = machine.deliverBeep.relogged logger := by
  have called := callHandler_relogged { machine with state := machine.state.takeBeep.1 } logger
  simp only [relogged] at called
  simp only [deliverBeep, relogged, called]
  split <;> rfl

theorem tick_relogged : (machine.relogged logger).tick = machine.tick.relogged logger :=
  deliverBeep_relogged { machine with state := machine.state.tick } logger

theorem ticks_relogged (count : Nat) :
    (machine.relogged logger).ticks count = (machine.ticks count).relogged logger := by
  induction count generalizing machine with
  | zero => rfl
  | succ count ih =>
    rw [ticks, ticks, tick_relogged, Outcome.andThen_relogged _ logger fun next _ => ih next]

theorem updateTimers_relogged :
    (machine.relogged logger).updateTimers around =
      (machine.updateTimers around).relogged logger := by
  simp only [updateTimers, relogged]
  split
  · rfl
  · split
    · rfl
    · rfl
    · next count accounted _ =>
      have ticked := ticks_relogged { machine with timersAt := some accounted } logger
        (min count tickLimit)
      simp only [relogged] at ticked
      rw [ticked, Outcome.andThen_relogged _ logger fun _ _ => rfl]

end Machine

namespace Window

theorem present_relogged (machine : Machine) (logger : Logger) (scale : Int) (palette : Palette) :
    present (machine.relogged logger) scale palette =
      (present machine scale palette).relogged logger := by
  refine Outcome.andThen_relogged machine.takeFrame logger fun machine shown => ?_
  cases shown <;> rfl

/-! ## Frames -/

theorem refresh_relogged (machine : Machine) (logger : Logger) (around : Surroundings)
    (scale : Int) (palette : Palette) :
    refresh (machine.relogged logger) around scale palette =
      (refresh machine around scale palette).relogged logger := by
  rw [refresh, Machine.updateTimers_relogged, Outcome.andThen_relogged _ logger fun machine _ =>
    present_relogged machine logger scale palette, refresh]

variable (settings : Settings) (palette : Palette) (around : Surroundings) (machine : Machine)
  (logger : Logger) (keypad : Keypad) (events : List Event)

/-- The frame for a machine with another logger, with other notes. -/
def FrameOutcome.relogged (done : FrameOutcome) (logger : Logger) (notes : List Note) :
    FrameOutcome :=
  { done with machine := done.machine.relogged logger, notes }

/-- The rest of a frame goes the same under another logger and after other notes. -/
theorem settle_relogged (ran : Outcome Unit) (before : List Note) :
    ∃ notes, settle settings palette around keypad events
        { ran.relogged logger with notes := before } =
      (settle settings palette around keypad events ran).relogged logger notes := by
  rcases ran with ⟨ranMachine, notes, failure | _⟩
  · cases failure <;> exact ⟨_, rfl⟩
  · simp only [settle, Outcome.relogged, refresh_relogged]
    rcases refresh ranMachine around settings.scale palette with ⟨_, _, _ | _⟩ <;> exact ⟨_, rfl⟩

/-- A frame goes the same under another logger, but for its notes. -/
theorem frame_relogged :
    ∃ notes, frame settings palette around (machine.relogged logger) keypad events =
      (frame settings palette around machine keypad events).relogged logger notes := by
  let ready := withKeys machine (events.foldl press keypad)
  obtain ⟨before, ran⟩ := runCycles_eq ready around
  obtain ⟨after, reran⟩ := runCycles_eq (ready.relogged logger) around
  rw [Machine.run_relogged] at reran
  have alike : runCycles (ready.relogged logger) around =
      { (runCycles ready around).relogged logger with notes := after } := by
    rw [reran, ran]
    rfl
  obtain ⟨notes, settled⟩ := settle_relogged settings palette around logger
    (events.foldl press keypad) events (runCycles ready around) after
  rw [← alike] at settled
  exact ⟨notes, settled⟩

/-- A frame of a script goes the same at another log level, but for its notes. -/
theorem play_relogged (level : String) (moment : Moment) :
    ∃ notes, moment.play { settings with logLevel := level } palette around
        (machine.relogged logger) keypad =
      (moment.play settings palette around machine keypad).relogged logger notes :=
  frame_relogged settings palette (moment.around around) machine logger keypad moment.events

/-! ## Scripts -/

namespace Report

/-- Two reports on windows that went the same: they end alike, made the same calls, reached equally
many frames and leave the same machine, but for its logger. What was written may differ. -/
structure Alike (first second : Report) : Prop where
  result : second.result = first.result
  calls : second.calls = first.calls
  framesLeft : second.framesLeft = first.framesLeft
  machine : ∃ logger, second.machine = first.machine.relogged logger

variable {first second : Report}

/-- Windows still go the same after a frame that goes the same. -/
theorem Alike.extended (alike : first.Alike second) (done : FrameOutcome) (now : Float)
    (framesLeft : Nat) (notes : List Note) :
    (first.extended done now framesLeft).Alike
      (second.extended (done.relogged logger notes) now framesLeft) where
  result := alike.result
  calls := congrArg (· ++ done.calls) alike.calls
  framesLeft := rfl
  machine := ⟨logger, rfl⟩

/-- Windows that went the same go on or end the same after a frame. -/
theorem Alike.continued (alike : first.Alike second) {done : FrameOutcome} (notes : List Note)
    {onward further : Report → Report} (later : (onward first).Alike (further second)) :
    (first.continued done onward).Alike
      (second.continued (done.relogged logger notes) further) := by
  simp only [Report.continued, FrameOutcome.relogged]
  split
  · exact later
  · exact ⟨rfl, congrArg (· ++ [Call.stop]) alike.calls, alike.framesLeft, alike.machine⟩
  · exact ⟨rfl, alike.calls, alike.framesLeft, alike.machine⟩

end Report

/-- A script goes the same for two windows that went the same before it, at any log level. -/
theorem alike_loop {first second : Report} (alike : first.Alike second) (level : String)
    (script : List Moment) :
    (loop settings palette around keypad first script).Alike
      (loop { settings with logLevel := level } palette around keypad second script) := by
  induction script generalizing around keypad first second with
  | nil =>
    obtain ⟨logger, same⟩ := alike.machine
    obtain ⟨notes, went⟩ := play_relogged settings palette around first.machine logger keypad level
      Moment.last
    simp only [loop, same, went]
    generalize Moment.last.play settings palette around first.machine keypad = done
    have further := alike.extended logger done (Moment.last.around around).now 0 notes
    exact further.continued logger notes further
  | cons moment rest ih =>
    obtain ⟨logger, same⟩ := alike.machine
    obtain ⟨notes, went⟩ := play_relogged settings palette around first.machine logger keypad level
      moment
    simp only [loop, same, went]
    generalize moment.play settings palette around first.machine keypad = done
    have further := alike.extended logger done (moment.around around).now rest.length
      notes
    exact further.continued logger notes (ih (moment.around around) done.keypad further)

/-- The log level of a window makes no difference but to the log. Whatever else the settings are,
whatever the program file holds and however long the script is, the window ends the same way, makes
the same calls, works through equally many frames and leaves the machine in the same state. -/
theorem logLevel_invisible (settings : Settings) (level : String) (around : Surroundings)
    (script : List Moment) :
    let other := { settings with logLevel := level }
    (∃ failure, run settings around script = .error failure ∧
      run other around script = .error failure) ∨
    ∃ first second, run settings around script = .ok first ∧
      run other around script = .ok second ∧ first.Alike second := by
  intro other
  unfold run
  cases Random.ofSeed? settings.seed with
  | none => exact .inl ⟨_, rfl, rfl⟩
  | some key =>
    refine .inr ⟨_, _, rfl, rfl, ?_⟩
    have reloaded := Machine.load_relogged
      (Machine.create key (logger settings around.now) .absent) (logger other around.now) around
      (.file settings.program)
    change (Machine.create key (logger other around.now) .absent).load around
      (.file other.program) = _ at reloaded
    simp only [reloaded]
    generalize (Machine.create key (logger settings around.now) .absent).load around
      (.file settings.program) = loaded
    rcases loaded with ⟨machine, notes, failure | _⟩
    · cases failure <;> exact ⟨rfl, rfl, rfl, ⟨_, rfl⟩⟩
    · cases Palette.ofName settings.scheme with
      | error failure =>
        simp only [other, Outcome.relogged]
        exact ⟨rfl, rfl, rfl, ⟨_, rfl⟩⟩
      | ok palette =>
        simp only [other, Outcome.relogged]
        refine alike_loop settings palette around Keypad.released ?_ level script
        exact ⟨rfl, rfl, rfl, ⟨_, rfl⟩⟩

end Window

end Chip8
