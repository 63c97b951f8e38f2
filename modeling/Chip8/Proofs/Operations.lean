import Chip8.Session
import Chip8.Proofs.FastPath

/-!
# What operations do to the state of a machine

Whatever happens to a machine in a session, its state goes one of four ways, and
`Session.PerformCases` lists them once: it runs cycles, it changes quietly, it starts over, or its
screen is handed out. Failures make no difference: a machine that has stopped does not move, and a
beep handler that fails leaves the ticks before it applied. Statements about all operations go by
cases on this and on what a cycle can do.
-/

namespace Chip8

/-- What holds of the machine after either part of an operation holds of it after both. -/
theorem Outcome.machine_andThen {α β : Type} (Holds : Machine → Prop) {first : Outcome α}
    {rest : Machine → α → Outcome β} (early : Holds first.machine)
    (late : ∀ value, Holds (rest first.machine value).machine) :
    Holds (first.andThen rest).machine := by
  cases result : first.result with
  | ok value =>
    rw [andThen_of_ok rest result]
    exact late value
  | error failure =>
    rw [andThen_of_error rest result]
    exact early

/-- The notes of the second part of an operation do not count if it has none. -/
theorem Outcome.notes_andThen {α β : Type} (first : Outcome α) {rest : Machine → α → Outcome β}
    (silent : ∀ machine value, (rest machine value).notes = []) :
    (first.andThen rest).notes = first.notes := by
  cases result : first.result with
  | ok value =>
    rw [andThen_of_ok rest result]
    simp only [silent, List.append_nil]
  | error failure => rw [andThen_of_error rest result]

/-! ## Programs -/

namespace Program

variable {program : Program} {around : Surroundings}

theorem load_of_unread {failure : Failure} (missing : program.read around = .error failure)
    (state : State) : program.load around state = .error failure := by
  rw [load, missing]
  rfl

theorem load_of_read {data : List UInt8} (found : program.read around = .ok data) (state : State) :
    program.load around state =
      (state.loadProgram data).map fun loaded => (loaded, data.length) := by
  simp only [load, found, bind, Except.bind, pure, Except.pure]
  cases state.loadProgram data <;> rfl

theorem memory_of_load {state loaded : State} {size : Nat}
    (success : program.load around state = .ok (loaded, size)) :
    ∃ memory, loaded = { state with memory } := by
  cases found : program.read around with
  | error failure =>
    rw [load_of_unread found] at success
    contradiction
  | ok data =>
    rw [load_of_read found] at success
    cases placed : state.loadProgram data with
    | error failure =>
      rw [placed] at success
      contradiction
    | ok changed =>
      rw [placed] at success
      cases success
      exact State.memory_of_loadProgram placed

end Program

namespace Machine

variable (machine : Machine) (around : Surroundings)

/-! ## Cycles -/

theorem machine_checkFault : machine.checkFault.machine = machine := by
  unfold checkFault
  split <;> rfl

theorem state_run (count : Int) :
    (machine.run around count).machine.state = machine.state.run count := by
  rw [run, machine_checkFault]
  rfl

/-- Cycles one by one come to where as many steps lead, even if they end early. -/
theorem state_cycles (count : Nat) :
    (machine.cycles around count).machine.state = State.steps count machine.state := by
  cases count with
  | zero => rfl
  | succ count =>
    obtain ⟨traced, -, slowly⟩ := machine.cycles_succ around count
    rw [slowly]
    exact congrArg Machine.state (machine_checkFault _)

/-- With a bar that can show the count, a machine runs as without it. -/
theorem runWithProgress_of_countable {ω : Type} {count : Int}
    (countable : Progress.Countable count) :
    ∃ events, machine.runWithProgress (ω := ω) around count =
      (machine.run around count).andThen fun next _ => ⟨next, [], .ok events⟩ := by
  obtain ⟨events, ran⟩ := State.runWithProgress_of_countable (ω := ω) machine.state countable
  refine ⟨events, ?_⟩
  simp only [runWithProgress, ran, run]

/-- With a bar, a machine runs its cycles unless the bar cannot show their number. -/
theorem state_runWithProgress {ω : Type} (count : Int) :
    ∃ cycles, (machine.runWithProgress (ω := ω) around count).machine.state =
      State.steps cycles machine.state := by
  by_cases countable : Progress.Countable count
  · obtain ⟨events, ran⟩ := State.runWithProgress_of_countable (ω := ω) machine.state countable
    have arrived := congrArg Machine.state
      (machine_checkFault (machine.arriveAt around.now (machine.state.run count)))
    refine ⟨count.toNat, ?_⟩
    simp only [runWithProgress, ran]
    exact Outcome.machine_andThen (fun after => after.state = machine.state.run count) arrived
      fun _ => arrived
  · refine ⟨0, ?_⟩
    simp only [runWithProgress, State.runWithProgress_of_not_countable machine.state countable]
    rfl

/-! ## Loads and resets -/

theorem result_load (program : Program) : (machine.load around program).result =
    (program.load around machine.state).map fun _ => () := by
  unfold load
  cases program.load around machine.state <;> rfl

theorem quietChange_load (program : Program) :
    machine.state.QuietChange (machine.load around program).machine.state := by
  unfold load
  split
  · exact .refl _
  · next success => exact State.quietChange_of_memory (Program.memory_of_load success)

/-- A reset starts over, whether or not the program can be loaded again. -/
theorem quietChange_reset :
    (State.fresh machine.seed).QuietChange (machine.reset around).machine.state := by
  simp only [reset]
  split
  · exact .refl _
  · split
    · next success => exact State.quietChange_of_memory (Program.memory_of_load success)
    · exact .refl _

/-! ## Timers, keys and frames -/

theorem machine_callHandler : machine.callHandler.machine = machine := by
  unfold callHandler
  split <;> rfl

theorem quietChange_deliverBeep :
    machine.state.QuietChange machine.deliverBeep.machine.state := by
  simp only [deliverBeep]
  split
  · rw [machine_callHandler]
    exact ⟨_, _, _, _, _, rfl⟩
  · exact ⟨_, _, _, _, _, rfl⟩

theorem quietChange_tick : machine.state.QuietChange machine.tick.machine.state :=
  State.QuietChange.trans ⟨_, _, _, _, _, rfl⟩
    (quietChange_deliverBeep { machine with state := machine.state.tick })

/-- What a tick keeps, any number of ticks keep, also if one of them fails. -/
theorem ticks_preserves (Keeps : Machine → Prop)
    (step : ∀ before : Machine, Keeps before → Keeps before.tick.machine) {machine : Machine}
    (start : Keeps machine) (count : Nat) : Keeps (machine.ticks count).machine := by
  induction count generalizing machine with
  | zero => exact start
  | succ count ih =>
    have first := step machine start
    exact Outcome.machine_andThen Keeps first fun _ => ih first

/-- Ticks do not touch the time up to which ticks were applied. -/
theorem timersAt_tick : machine.tick.machine.timersAt = machine.timersAt := by
  simp only [tick, deliverBeep]
  split
  · rw [machine_callHandler]
  · rfl

theorem timersAt_ticks (count : Nat) :
    (machine.ticks count).machine.timersAt = machine.timersAt :=
  ticks_preserves (fun after => after.timersAt = machine.timersAt)
    (fun before same => before.timersAt_tick.trans same) rfl count

/-- The ticks that are due by the clock and the time they account for, if ticks are due and the
clock can tell. -/
def due? (machine : Machine) (around : Surroundings) : Option (Nat × Float) :=
  match machine.timersAt with
  | none => none
  | some last =>
    match TimerClock.due last around.now with
    | .ok due => due
    | .error _ => none

variable {machine around} in
theorem updateTimers_of_due {count : Nat} {accounted : Float}
    (due : machine.due? around = some (count, accounted)) :
    machine.updateTimers around =
      ({ machine with timersAt := some accounted }.ticks (min count tickLimit)).andThen
        fun next _ => ⟨next, [], .ok (min count tickLimit)⟩ := by
  unfold due? at due
  split at due
  · contradiction
  · next last known =>
    split at due
    · next counted =>
      subst due
      simp only [updateTimers, known, counted]
    · contradiction

variable {machine around} in
theorem updateTimers_of_idle (idle : machine.due? around = none) :
    ∃ result, machine.updateTimers around = ⟨machine, [], result⟩ := by
  unfold due? at idle
  split at idle
  · next unknown => exact ⟨.ok 0, by simp only [updateTimers, unknown]⟩
  · next last known =>
    split at idle
    · next counted =>
      subst idle
      exact ⟨.ok 0, by simp only [updateTimers, known, counted]⟩
    · next failure failed => exact ⟨.error failure, by simp only [updateTimers, known, failed]⟩

variable {machine around} in
/-- An update leaves what its ticks leave. -/
theorem machine_updateTimers_of_due {count : Nat} {accounted : Float}
    (due : machine.due? around = some (count, accounted)) :
    (machine.updateTimers around).machine =
      ({ machine with timersAt := some accounted }.ticks (min count tickLimit)).machine := by
  rw [updateTimers_of_due due]
  exact (Outcome.agrees_andThen _ _).machine

variable {machine around} in
theorem machine_updateTimers_of_idle (idle : machine.due? around = none) :
    (machine.updateTimers around).machine = machine := by
  obtain ⟨result, same⟩ := updateTimers_of_idle idle
  rw [same]

/-- What ticks keep, whatever time they count from, an update of the timers keeps. -/
theorem updateTimers_preserves (Keeps : Machine → Prop)
    (step : ∀ before : Machine, Keeps before → Keeps before.tick.machine)
    (timed : ∀ (before : Machine) (time : Float), Keeps before →
      Keeps { before with timersAt := some time })
    {machine : Machine} (start : Keeps machine) (around : Surroundings) :
    Keeps (machine.updateTimers around).machine := by
  cases due : machine.due? around with
  | none => rwa [machine_updateTimers_of_idle due]
  | some both =>
    rw [machine_updateTimers_of_due due]
    exact ticks_preserves Keeps step (timed machine both.2 start) (min both.1 tickLimit)

theorem quietChange_updateTimers :
    machine.state.QuietChange (machine.updateTimers around).machine.state :=
  updateTimers_preserves (fun after => machine.state.QuietChange after.state)
    (fun before changed => changed.trans before.quietChange_tick) (fun _ _ changed => changed)
    (.refl _) around

theorem quietChange_setKeypad (keys : Nested Bool) :
    machine.state.QuietChange (machine.setKeypad keys).machine.state := by
  unfold setKeypad
  split
  · next success => exact State.quietChange_setKeypad success
  · exact .refl _

end Machine

namespace Session

/-- The ways the state of a machine can go when something happens. -/
inductive PerformCases (session : Session) (happening : Happening) : Prop
  | cycles (count : Nat) (ran : (session.perform happening).session.machine.state =
      State.steps count session.machine.state)
  | quiet (change : session.machine.state.QuietChange
      (session.perform happening).session.machine.state)
  /-- The machine starts over. -/
  | reset (isReset : happening = .reset) (change : (State.fresh session.machine.seed).QuietChange
      (session.perform happening).session.machine.state)
  /-- The screen is handed out if it was drawn on. -/
  | takeFrame (isTakeFrame : happening = .takeFrame)
      (taken : (session.perform happening).session.machine.state =
        session.machine.state.takeFrame.1)

theorem performCases (session : Session) (happening : Happening) :
    session.PerformCases happening := by
  cases happening with
  | load program => exact .quiet (session.machine.quietChange_load session.around program)
  | reset => exact .reset rfl (session.machine.quietChange_reset session.around)
  | cycles count => exact .cycles count (session.machine.state_cycles session.around count)
  | run count => exact .cycles count.toNat (session.machine.state_run session.around count)
  | runWithProgress count =>
    obtain ⟨cycles, ran⟩ := session.machine.state_runWithProgress (ω := Unit) session.around count
    exact .cycles cycles ran
  | setKeypad keys => exact .quiet (session.machine.quietChange_setKeypad keys)
  | tick => exact .quiet session.machine.quietChange_tick
  | updateTimers => exact .quiet (session.machine.quietChange_updateTimers session.around)
  | takeFrame => exact .takeFrame rfl rfl
  | clockReads | fileAppears | fileVanishes => exact .quiet (.refl _)

/-! ## Histories -/

theorem after_append (session : Session) (earlier later : List Happening) :
    session.after (earlier ++ later) = (session.after earlier).after later :=
  List.foldl_append

theorem replies_append (session : Session) (earlier later : List Happening) :
    session.replies (earlier ++ later) =
      session.replies earlier ++ (session.after earlier).replies later := by
  induction earlier generalizing session with
  | nil => rfl
  | cons happening rest ih =>
    rw [List.cons_append, replies, ih]
    rfl

end Session

end Chip8
