import Mathlib.Data.List.Chain
import Chip8.Proofs.Frames
import Chip8.Proofs.HostMemory
import Chip8.Proofs.Pictures
import Chip8.Proofs.TimerCatchUp

/-!
# The protocol of a window

A window that opens works through frames until it is asked to close or its machine stops, and it is
stopped itself then. A `Stage` is what a frame begins with, `stages` lists those of a loop, and
`Stage.Follows` says what a frame makes of it. Beside the machine there are two things that can fail
in a frame: the quotient of which ticks are counted may be no finite number, and the picture of the
screen may be too large. Where neither does, every frame follows the protocol, and so does the run.
-/

namespace Chip8

/-! ## Clocks and handlers -/

def ExactFloat.isFinite : ExactFloat → Bool
  | finite _ _ _ => true
  | _ => false

/-- The quotient whose whole part is the number of ticks due. -/
def TimerClock.quotient (last now : Float) : ExactFloat :=
  ExactFloat.ofFloat ((now - last) / period)

theorem TimerClock.due_of_isFinite {last now : Float}
    (finite : (quotient last now).isFinite = true) : ∃ counted, due last now = .ok counted := by
  unfold quotient ExactFloat.isFinite at finite
  split at finite
  · next negative significand exponent known =>
    simp only [due, known]
    split <;> exact ⟨_, rfl⟩
  · contradiction

namespace Machine

variable {machine : Machine}

/-- Without a handler of beeps, an update of the timers fails only for want of a quotient. -/
theorem result_updateTimers {around : Surroundings} (unheard : machine.onBeep = .absent)
    (finite : ∀ last ∈ machine.timersAt, (TimerClock.quotient last around.now).isFinite = true) :
    ∃ count, (machine.updateTimers around).result = .ok count := by
  unfold updateTimers
  split
  · exact ⟨0, rfl⟩
  · next last known =>
    obtain ⟨counted, due⟩ := TimerClock.due_of_isFinite (finite last known)
    rw [due]
    cases counted with
    | none => exact ⟨0, rfl⟩
    | some both =>
      have returns : machine.onBeep.returns = true := by
        rw [unheard]
        rfl
      have ticked := @result_ticks_of_returns { machine with timersAt := some both.2 } returns
        (min both.1 tickLimit)
      simp only [Outcome.andThen_of_ok _ ticked]
      exact ⟨_, rfl⟩

end Machine

namespace Picture

/-- The screen has a picture at every scale that is small enough. -/
theorem columnsOf_of_lt (frame : Frame) {scale : Int} (small : scale < 0x8000000000000000)
    (palette : Palette) : ∃ surface, columnsOf (.ofFrame frame) scale palette = .ok surface :=
  scaled_of_lt _ small

end Picture

/-! ## Programs and schemes -/

/-- The file of a name can be read, and a machine can hold what it contains. -/
def Surroundings.Loadable (around : Surroundings) (name : String) : Prop :=
  ∃ data, around.readFile name = .ok data ∧ data ≠ [] ∧ data.length ≤ Layout.programCapacity

namespace State

/-- A state has an error if it has stopped, and only then. -/
theorem isSome_error? (state : State) : state.error?.isSome = state.halted := by
  rw [error?, Option.isSome_map, halted]

end State

theorem Program.read_file {name : String} (around : Surroundings)
    (named : name.contains (Char.ofNat 0) = false) : (file name).read around =
      (around.readFile name).mapError fun cause => .machine (.unreadable name cause) := by
  rw [read, named, if_neg Bool.false_ne_true]
  cases around.readFile name <;> rfl

namespace Machine

variable (machine : Machine) {around : Surroundings} {name : String}

theorem result_load_of_zero (zero : name.contains (Char.ofNat 0) = true) :
    (machine.load around (.file name)).result = .error .zeroInName := by
  have unread : (Program.file name).read around = .error .zeroInName := if_pos zero
  rw [result_load, Program.load_of_unread unread]
  rfl

theorem result_load_of_loadable (named : name.contains (Char.ofNat 0) = false)
    (loadable : around.Loadable name) : (machine.load around (.file name)).result = .ok () := by
  obtain ⟨data, found, some, fits⟩ := loadable
  have placed := (machine.state.loadProgram_of_fits some fits).trans
    (machine.state.writeBytes_of_inMemory (State.inMemory_of_fits fits))
  have read := Program.read_file around named
  rw [found] at read
  rw [result_load, Program.load_of_read read, placed]
  rfl

theorem result_load_of_not_loadable (named : name.contains (Char.ofNat 0) = false)
    (missing : ¬ around.Loadable name) :
    ∃ error, (machine.load around (.file name)).result = .error (.machine error) := by
  have read := Program.read_file around named
  rw [result_load]
  cases found : around.readFile name with
  | error cause =>
    rw [found] at read
    rw [Program.load_of_unread read]
    exact ⟨_, rfl⟩
  | ok data =>
    obtain ⟨error, refused, -⟩ := machine.state.loadProgram_of_misfit
      fun fits => missing ⟨data, found, fits⟩
    rw [found] at read
    rw [Program.load_of_read read, refused]
    exact ⟨_, rfl⟩

end Machine

namespace Palette

theorem mem_of_ofName {name : String} {palette : Palette} (known : ofName name = .ok palette) :
    (name, palette) ∈ schemes := by
  unfold ofName at known
  split at known
  · next other _ found =>
    cases known
    have among := List.mem_of_find?_eq_some found
    have same := List.find?_some found
    simp only [beq_iff_eq] at same
    rwa [same] at among
  · contradiction

theorem not_mem_of_ofName {name : String} {failure : Failure}
    (unknown : ofName name = .error failure) :
    failure = .unknownScheme name (schemes.map (·.1)) ∧ ∀ palette, (name, palette) ∉ schemes := by
  unfold ofName at unknown
  split at unknown
  · contradiction
  · next missing =>
    cases unknown
    refine ⟨rfl, fun palette among => ?_⟩
    simpa using List.find?_eq_none.mp missing _ among

end Palette

namespace Window

/-- The calls show the screen of a state if it was drawn on, and nothing else. -/
def Shows (settings : Settings) (palette : Palette) (state : State) (calls : List Call) : Prop :=
  if state.dirty then
    ∃ surface, Picture.columnsOf (.ofFrame state.screen.cells) settings.scale palette =
      .ok surface ∧ calls = [.blit surface, .flip]
  else calls = []

/-! ## What a frame begins with -/

/-- What a frame begins with. -/
structure Stage where
  moment : Moment
  /-- What was around the window before the frame. -/
  before : Surroundings
  machine : Machine
  keypad : Keypad

namespace Stage

/-- What the frame finds around it. -/
def around (stage : Stage) : Surroundings :=
  stage.moment.around stage.before

/-- The keys that the events of the frame leave held. -/
def held (stage : Stage) : Keypad :=
  stage.moment.events.foldl press stage.keypad

/-- The state after ten cycles on the held keys. -/
def cycled (stage : Stage) : State :=
  State.steps 10 (stage.machine.state.setKeys stage.held)

/-- The machine after the cycles of the frame. -/
def ran (stage : Stage) : Machine :=
  stage.machine.arriveAt stage.around.now stage.cycled

/-- The machine has stopped by the end of the cycles. -/
def faults (stage : Stage) : Bool :=
  stage.cycled.halted

/-- The window is asked to close, or the closing key goes down. -/
def closes (stage : Stage) : Bool :=
  stage.moment.events.contains .close || stage.moment.events.contains (.keyDown "ESCAPE")

/-- The quotient of which the ticks due are counted: the timers have run since the first cycle. -/
def quotient (stage : Stage) : ExactFloat :=
  TimerClock.quotient (stage.machine.timersAt.getD stage.around.now) stage.around.now

/-- What the frame leaves behind. -/
def outcome (settings : Settings) (palette : Palette) (stage : Stage) : FrameOutcome :=
  stage.moment.play settings palette stage.before stage.machine stage.keypad

/-- What a frame makes of what it begins with. -/
inductive Follows (settings : Settings) (palette : Palette) (stage : Stage) (done : FrameOutcome) :
    Prop
  /-- The machine stops in the cycles. Nothing is shown, and no timer ticks. -/
  | faulted (stops : stage.faults = true) (machine : done.machine = stage.ran)
      (calls : done.calls = [.tick 60]) (verdict : done.verdict = .leave 1)
  /-- The timers catch up, and the screen is shown if it was drawn on. -/
  | completed (runs : stage.faults = false) (count : Nat) (shownCalls : List Call)
      (counted : (stage.ran.updateTimers stage.around).result = .ok count)
      (machine : done.machine = (stage.ran.updateTimers stage.around).machine.takeFrame.machine)
      (shown : Shows settings palette stage.cycled shownCalls)
      (calls : done.calls = .tick 60 :: shownCalls)
      (verdict : done.verdict = if stage.closes then .leave 0 else .goOn)

end Stage

/-! ## One frame -/

section Frame

variable {settings : Settings} {palette : Palette} {around : Surroundings}

theorem settle_of_stopped {keypad : Keypad} {events : List Event} {ran : Outcome Unit}
    {error : MachineError} (stopped : ran.result = .error (.machine error)) :
    settle settings palette around keypad events ran =
      ⟨ran.machine, keypad, [frameTick], ran.notes, .leave 1⟩ := by
  simp only [settle, stopped]

theorem settle_of_shown {keypad : Keypad} {events : List Event} {ran : Outcome Unit}
    {calls : List Call} (through : ran.result = .ok ())
    (shown : (refresh ran.machine around settings.scale palette).result = .ok calls) :
    settle settings palette around keypad events ran =
      ⟨(refresh ran.machine around settings.scale palette).machine, keypad, frameTick :: calls,
        ran.notes ++ (refresh ran.machine around settings.scale palette).notes,
        if events.any asksToClose then .leave 0 else .goOn⟩ := by
  simp only [settle, through, shown]

/-- At a scale that is small enough, the screen can always be presented. -/
theorem present_of_lt (machine : Machine) (small : settings.scale < 0x8000000000000000) :
    ∃ calls, (present machine settings.scale palette).result = .ok calls ∧
      (present machine settings.scale palette).machine = machine.takeFrame.machine ∧
      Shows settings palette machine.state calls := by
  unfold Shows
  cases marked : machine.state.dirty with
  | true =>
    have handed : machine.state.takeFrame =
        ({ machine.state with dirty := false }, some machine.state.screen.cells) := by
      rw [State.takeFrame, marked, if_pos rfl]
    obtain ⟨surface, made⟩ := Picture.columnsOf_of_lt machine.state.screen.cells small palette
    refine ⟨[.blit surface, .flip], ?_, ?_, surface, made, rfl⟩
    · simp only [present, Machine.takeFrame, handed, Outcome.andThen, made, Except.map]
    · simp only [present, Machine.takeFrame, handed, Outcome.andThen]
  | false =>
    have handed : machine.state.takeFrame = (machine.state, none) := by
      rw [State.takeFrame, marked, if_neg Bool.false_ne_true]
    refine ⟨[], ?_, ?_, rfl⟩
    · simp only [present, Machine.takeFrame, handed, Outcome.andThen]
    · simp only [present, Machine.takeFrame, handed, Outcome.andThen]

/-- The end of a frame, where neither the clock nor the picture makes it fail. -/
theorem refresh_of_lt {machine : Machine} (unheard : machine.onBeep = .absent)
    (finite : ∀ last ∈ machine.timersAt, (TimerClock.quotient last around.now).isFinite = true)
    (small : settings.scale < 0x8000000000000000) :
    ∃ count calls, (machine.updateTimers around).result = .ok count ∧
      (refresh machine around settings.scale palette).result = .ok calls ∧
      (refresh machine around settings.scale palette).machine =
        (machine.updateTimers around).machine.takeFrame.machine ∧
      Shows settings palette machine.state calls := by
  obtain ⟨count, counted⟩ := Machine.result_updateTimers unheard finite
  obtain ⟨calls, presented, taken, shown⟩ := @present_of_lt settings palette
    (machine.updateTimers around).machine small
  -- what ticks change is not what is shown
  obtain ⟨_, _, _, _, _, same⟩ := machine.quietChange_updateTimers around
  rw [same] at shown
  rw [refresh, Outcome.andThen_of_ok _ counted]
  exact ⟨count, calls, counted, presented, taken, shown⟩

namespace Stage

variable {stage : Stage}

theorem any_asksToClose (stage : Stage) :
    stage.moment.events.any asksToClose = stage.closes := by
  rw [closes, Bool.eq_iff_iff]
  simp only [List.any_eq_true, Bool.or_eq_true, List.contains_iff_mem]
  constructor
  · rintro ⟨event, among, asks⟩
    cases event with
    | close => exact .inl among
    | keyDown key =>
      simp only [asksToClose, beq_iff_eq] at asks
      subst asks
      exact .inr among
    | _ => contradiction
  · rintro (among | among)
    · exact ⟨_, among, rfl⟩
    · exact ⟨_, among, rfl⟩

/-- The cycles of a frame run on the keys that its events leave held. -/
theorem outcome_eq_settle (settings : Settings) (palette : Palette) (stage : Stage) :
    stage.outcome settings palette =
      settle settings palette stage.around stage.held stage.moment.events
        (runCycles (withKeys stage.machine stage.held) stage.around) := rfl

theorem machine_runCycles (stage : Stage) :
    (runCycles (withKeys stage.machine stage.held) stage.around).machine = stage.ran := by
  obtain ⟨notes, ran⟩ := runCycles_eq (withKeys stage.machine stage.held) stage.around
  rw [ran]
  exact Machine.machine_checkFault _

theorem result_runCycles (stage : Stage) :
    (runCycles (withKeys stage.machine stage.held) stage.around).result =
      stage.ran.checkFault.result := by
  obtain ⟨notes, ran⟩ := runCycles_eq (withKeys stage.machine stage.held) stage.around
  rw [ran]
  rfl

/-- A frame follows the protocol if nothing but the machine can fail in it. -/
theorem follows_outcome (unheard : stage.machine.onBeep = .absent)
    (small : settings.scale < 0x8000000000000000)
    (finite : stage.faults = true ∨ stage.quotient.isFinite = true) :
    stage.Follows settings palette (stage.outcome settings palette) := by
  have result := stage.result_runCycles
  cases stopped : stage.cycled.error? with
  | some error =>
    rw [ran, Machine.checkFault_of_stopped _ _ stopped] at result
    rw [outcome_eq_settle, settle_of_stopped result]
    have stops : stage.faults = true := by
      rw [faults, ← State.isSome_error?, stopped, Option.isSome]
    exact .faulted stops stage.machine_runCycles rfl rfl
  | none =>
    have runs : stage.faults = false := by
      rw [faults, ← State.isSome_error?, stopped, Option.isSome]
    rw [ran, Machine.checkFault_of_running _ _ stopped] at result
    -- the timers have run since the first cycle, so the clock is asked for the ticks due
    have clock : ∀ last ∈ stage.ran.timersAt,
        (TimerClock.quotient last stage.around.now).isFinite = true := by
      intro last known
      cases known
      exact finite.resolve_left (Bool.not_eq_true _ ▸ runs)
    obtain ⟨count, calls, counted, refreshed, taken, shown⟩ :=
      @refresh_of_lt settings palette stage.around stage.ran unheard clock small
    have shownNow : (refresh (runCycles (withKeys stage.machine stage.held) stage.around).machine
        stage.around settings.scale palette).result = .ok calls := by
      rwa [stage.machine_runCycles]
    rw [outcome_eq_settle, settle_of_shown result shownNow, stage.machine_runCycles,
      stage.any_asksToClose]
    exact .completed runs count calls counted taken shown rfl rfl

end Stage

end Frame

/-! ## The frames of a loop -/

section Loop

variable (settings : Settings) (palette : Palette)

/-- The next frame begins with what the frame before it left. -/
structure Stage.Precedes (stage next : Stage) : Prop where
  before : next.before = stage.around
  machine : next.machine = (stage.outcome settings palette).machine
  keypad : next.keypad = stage.held

/-- Goes on with further frames if the frame went on. -/
def Stage.leadingTo (stage : Stage) (done : FrameOutcome) (later : List Stage) : List Stage :=
  match done.verdict with
  | .goOn => stage :: later
  | _ => [stage]

/-- What the frames of a loop begin with. The last one does not go on. -/
def stages (around : Surroundings) (machine : Machine) (keypad : Keypad) :
    List Moment → List Stage
  | [] => [⟨Moment.last, around, machine, keypad⟩]
  | moment :: rest =>
    let done := moment.play settings palette around machine keypad
    Stage.leadingTo ⟨moment, around, machine, keypad⟩ done
      (stages (moment.around around) done.machine done.keypad rest)

/-- Frames that begin one where the other ended take the moments of a script in order, and after
the script the moment that closes the window. -/
structure Successive (around : Surroundings) (machine : Machine) (keypad : Keypad)
    (script : List Moment) (worked : List Stage) : Prop where
  moments : worked.map Stage.moment <+: script ++ [Moment.last]
  begins : ∃ moment, worked.head? = some ⟨moment, around, machine, keypad⟩
  passes : worked.IsChain (Stage.Precedes settings palette)

end Loop

section Stages

variable {settings : Settings} {palette : Palette} {around : Surroundings} {machine : Machine}
  {keypad : Keypad} {moment : Moment} {rest : List Moment}

theorem stages_of_goOn
    (going : (moment.play settings palette around machine keypad).verdict = .goOn) :
    stages settings palette around machine keypad (moment :: rest) =
      ⟨moment, around, machine, keypad⟩ ::
        stages settings palette (moment.around around)
          (moment.play settings palette around machine keypad).machine
          (moment.play settings palette around machine keypad).keypad rest := by
  simp only [stages, Stage.leadingTo, going]

theorem stages_of_ends
    (ends : (moment.play settings palette around machine keypad).verdict ≠ .goOn) :
    stages settings palette around machine keypad (moment :: rest) =
      [⟨moment, around, machine, keypad⟩] := by
  simp only [stages, Stage.leadingTo]

/-- Of a stage and those after it, one is either the first or comes after it, whose frame then went
on. -/
theorem Stage.of_leadingTo {first stage : Stage} {done : FrameOutcome}
    {further earlier later : List Stage}
    (split : first.leadingTo done further = earlier ++ stage :: later) :
    (earlier = [] ∧ stage = first) ∨ done.verdict = .goOn ∧
      ∃ more, earlier = first :: more ∧ further = more ++ stage :: later := by
  unfold leadingTo at split
  split at split
  · next going =>
    rcases List.cons_eq_append_iff.mp split with ⟨rfl, same⟩ | ⟨more, rfl, rest⟩
    · exact .inl ⟨rfl, (List.cons.inj same).1⟩
    · exact .inr ⟨going, more, rfl, rest⟩
  · rcases List.cons_eq_append_iff.mp split with ⟨rfl, same⟩ | ⟨_, -, none⟩
    · exact .inl ⟨rfl, (List.cons.inj same).1⟩
    · simp at none

theorem frames_eq_map (script : List Moment) :
    frames settings palette around machine keypad script =
      (stages settings palette around machine keypad script).map
        (Stage.outcome settings palette) := by
  induction script generalizing around machine keypad with
  | nil => rfl
  | cons moment rest ih =>
    rw [frames]
    by_cases going : (moment.play settings palette around machine keypad).verdict = .goOn
    · rw [FrameOutcome.before_of_goOn going, stages_of_goOn going, List.map_cons, ih]
      rfl
    · rw [FrameOutcome.before_of_ends going, stages_of_ends going]
      rfl

theorem successive_stages (script : List Moment) :
    Successive settings palette around machine keypad script
      (stages settings palette around machine keypad script) := by
  induction script generalizing around machine keypad with
  | nil => exact ⟨List.prefix_rfl, ⟨_, rfl⟩, .singleton _⟩
  | cons moment rest ih =>
    by_cases going : (moment.play settings palette around machine keypad).verdict = .goOn
    · obtain ⟨moments, ⟨next, begins⟩, passes⟩ := @ih (moment.around around)
        (moment.play settings palette around machine keypad).machine
        (moment.play settings palette around machine keypad).keypad
      rw [stages_of_goOn going]
      refine ⟨List.cons_prefix_cons.mpr ⟨rfl, moments⟩, ⟨moment, rfl⟩,
        List.isChain_cons.mpr ⟨fun stage first => ?_, passes⟩⟩
      rw [begins] at first
      cases first
      exact ⟨rfl, rfl, keypad_frame settings palette (moment.around around) machine keypad
        moment.events⟩
    · rw [stages_of_ends going]
      exact ⟨List.cons_prefix_cons.mpr ⟨rfl, List.nil_prefix⟩, ⟨moment, rfl⟩, .singleton _⟩

/-- If nothing but the machine can fail, every frame follows the protocol: the machine that goes on
has no handler of beeps either. -/
theorem follows_stages (unheard : machine.onBeep = .absent)
    (small : settings.scale < 0x8000000000000000) {script : List Moment}
    (finite : ∀ stage ∈ stages settings palette around machine keypad script,
      stage.faults = true ∨ stage.quotient.isFinite = true) :
    ∀ stage ∈ stages settings palette around machine keypad script,
      stage.Follows settings palette (stage.outcome settings palette) := by
  induction script generalizing around machine keypad with
  | nil =>
    exact List.forall_mem_singleton.mpr
      (Stage.follows_outcome unheard small (finite _ (List.mem_singleton_self _)))
  | cons moment rest ih =>
    by_cases going : (moment.play settings palette around machine keypad).verdict = .goOn
    · rw [stages_of_goOn going, List.forall_mem_cons] at finite ⊢
      have follows := @Stage.follows_outcome settings palette ⟨moment, around, machine, keypad⟩
        unheard small finite.1
      refine ⟨follows, ih ?_ finite.2⟩
      cases follows with
      | faulted _ _ _ verdict => exact absurd (going.symm.trans verdict) nofun
      | completed _ _ _ _ machineAfter =>
        obtain ⟨_, _, moved⟩ := (Stage.ran ⟨moment, around, machine, keypad⟩).moves_updateTimers
          (moment.around around)
        refine (congrArg Machine.onBeep machineAfter).trans ?_
        exact (congrArg Machine.onBeep moved).trans unheard
    · rw [stages_of_ends going] at finite ⊢
      exact List.forall_mem_singleton.mpr
        (Stage.follows_outcome unheard small (finite _ (List.mem_singleton_self _)))

end Stages

/-! ## Whole runs -/

/-- What a window does from its opening to its end, frame by frame. -/
structure Protocol (settings : Settings) (palette : Palette) (around : Surroundings)
    (machine : Machine) (script : List Moment) (earlier : List Stage) (last : Stage)
    (report : Report) : Prop where
  successive : Successive settings palette around machine Keypad.released script (earlier ++ [last])
  follows : ∀ stage ∈ earlier ++ [last],
    stage.Follows settings palette (stage.outcome settings palette)
  goOn : ∀ stage ∈ earlier, stage.faults = false ∧ stage.closes = false
  ends : last.faults = true ∨ last.closes = true
  calls : report.calls =
    .start :: .setMode (64 * settings.scale) (32 * settings.scale) ::
    .caption "Chip8 - ESC to exit" ::
    (earlier ++ [last]).flatMap (fun stage => (stage.outcome settings palette).calls) ++ [.stop]
  result : report.result = .ok (if last.faults then 1 else 0)
  machine : report.machine = (last.outcome settings palette).machine
  framesLeft : report.framesLeft = script.length - (earlier.length + 1)

/-- The ways a run can go. -/
inductive RunCases (settings : Settings) (around : Surroundings) (script : List Moment)
    (report : Report) : Prop
  /-- No file has a zero character in its name. -/
  | unnamed (zero : settings.program.contains (Char.ofNat 0) = true)
      (result : report.result = .error .zeroInName) (calls : report.calls = [])
  | unloaded (named : settings.program.contains (Char.ofNat 0) = false)
      (missing : ¬ around.Loadable settings.program)
      (result : report.result = .ok 1) (calls : report.calls = [])
  | unknownScheme (named : settings.program.contains (Char.ofNat 0) = false)
      (loadable : around.Loadable settings.program)
      (unknown : ∀ palette, (settings.scheme, palette) ∉ Palette.schemes)
      (result : report.result =
        .error (.unknownScheme settings.scheme (Palette.schemes.map (·.1))))
      (calls : report.calls = [])
  | opened (named : settings.program.contains (Char.ofNat 0) = false)
      (loadable : around.Loadable settings.program) (palette : Palette)
      (known : (settings.scheme, palette) ∈ Palette.schemes) (machine : Machine)
      (opens : opened? settings around = some (machine, palette))
      (earlier : List Stage) (last : Stage)
      (protocol : Protocol settings palette around machine script earlier last report)

/-- What the frames of a run begin with. There are none if the window does not open. -/
def stagesOf (settings : Settings) (around : Surroundings) (script : List Moment) : List Stage :=
  match opened? settings around with
  | some (machine, palette) => stages settings palette around machine Keypad.released script
  | none => []

section Run

variable {settings : Settings} {around : Surroundings} {script : List Moment}

/-- A frame that follows the protocol goes on unless the machine stops or the window is asked to
close. -/
theorem Stage.Follows.goOn_iff {palette : Palette} {stage : Stage} {done : FrameOutcome}
    (follows : stage.Follows settings palette done) :
    done.verdict = .goOn ↔ stage.faults = false ∧ stage.closes = false := by
  cases follows with
  | faulted stops _ _ verdict => simp [verdict, stops]
  | completed runs _ _ _ _ _ _ verdict =>
    cases closes : stage.closes <;> simp [verdict, runs, closes]

/-- The last frame of a window leaves with one if the machine stopped, and with zero if not. -/
theorem Stage.Follows.leaves {palette : Palette} {stage : Stage} {done : FrameOutcome}
    (follows : stage.Follows settings palette done)
    (ends : stage.faults = true ∨ stage.closes = true) :
    done.verdict = .leave (if stage.faults then 1 else 0) := by
  cases follows with
  | faulted stops _ _ verdict => rw [verdict, if_pos stops]
  | completed runs _ _ _ _ _ _ verdict =>
    have closes : stage.closes = true := by simpa [runs] using ends
    rw [verdict, if_pos closes, runs, if_neg Bool.false_ne_true]

/-- A window that opens follows the protocol if nothing but its machine can fail. -/
theorem protocol_of_opened {machine : Machine} {palette : Palette}
    (opens : opened? settings around = some (machine, palette))
    (small : settings.scale < 0x8000000000000000)
    (finite : ∀ stage ∈ stagesOf settings around script,
      stage.faults = true ∨ stage.quotient.isFinite = true) :
    ∃ report earlier last, run settings around script = .ok report ∧
      Protocol settings palette around machine script earlier last report := by
  obtain ⟨report, before, final, ran, split, comprises⟩ := run_comprises opens script
  have unheard : machine.onBeep = .absent := by
    obtain ⟨key, -, -, loads, rfl⟩ := loaded_of_opened opens
    rcases Machine.load_cases (Machine.create key (logger settings around.now) .absent) around
      (.file settings.program) with ⟨failure, same⟩ | ⟨loaded, size, -, same⟩
    · rw [same]
      rfl
    · rw [same]
      rfl
  simp only [stagesOf, opens] at finite
  simp only [framesOf, opens, frames_eq_map] at split
  obtain ⟨earlier, rest, parts, rfl, rest_eq⟩ := List.map_eq_append_iff.mp split
  obtain ⟨last, rfl, rfl⟩ := List.map_eq_singleton_iff.mp rest_eq
  have follows := follows_stages unheard small finite
  have successive : Successive settings palette around machine Keypad.released script _ :=
    successive_stages script
  rw [parts] at follows successive
  have goOn : ∀ stage ∈ earlier, stage.faults = false ∧ stage.closes = false := fun stage among =>
    (follows stage (List.mem_append_left _ among)).goOn_iff.mp
      (comprises.goOn _ (List.mem_map_of_mem among))
  have lastFollows := follows last (by simp)
  have ends : last.faults = true ∨ last.closes = true := by
    have stays := mt lastFollows.goOn_iff.mpr comprises.ends
    cases faults : last.faults <;> simp_all
  obtain ⟨result, calls⟩ := comprises.left _ (lastFollows.leaves ends)
  refine ⟨report, earlier, last, ran, successive, follows, goOn, ends, ?_, result,
    comprises.machine, ?_⟩
  · rw [calls, List.flatMap_append, List.flatMap_map, List.flatMap_append]
    rfl
  · rw [comprises.framesLeft, List.length_map]

/-- **The protocol of a run.** Let the scale be below `2 ^ 63`, and let the quotient of which ticks
are counted be finite in every frame whose machine runs. Then a run goes one of four ways, whatever
the file holds and whatever happens: the program cannot be loaded under a name that no file can have
or because of what the file is, the scheme is unknown, or the window opens and works through the
script by the protocol. -/
theorem run_by_protocol (settings : Settings) (around : Surroundings) (script : List Moment)
    (seed : -0x8000000000000000 ≤ settings.seed ∧ settings.seed < 0x8000000000000000)
    (small : settings.scale < 0x8000000000000000)
    (finite : ∀ stage ∈ stagesOf settings around script,
      stage.faults = true ∨ stage.quotient.isFinite = true) :
    ∃ report, run settings around script = .ok report ∧ RunCases settings around script report := by
  obtain ⟨key, seeded⟩ : ∃ key, Random.ofSeed? settings.seed = some key := ⟨_, if_pos seed⟩
  -- the machine that the program is loaded into
  obtain ⟨machine, made⟩ : ∃ machine, machine = Machine.create key (logger settings around.now)
    .absent := ⟨_, rfl⟩
  cases named : settings.program.contains (Char.ofNat 0) with
  | true =>
    have refused := @Machine.result_load_of_zero machine around _ named
    exact ⟨_, by simp only [run, seeded, ← made, refused]; rfl, .unnamed named rfl rfl⟩
  | false =>
    by_cases loadable : around.Loadable settings.program
    · have loaded := machine.result_load_of_loadable named loadable
      cases scheme : Palette.ofName settings.scheme with
      | error failure =>
        obtain ⟨rfl, unknown⟩ := Palette.not_mem_of_ofName scheme
        exact ⟨_, by simp only [run, seeded, ← made, loaded, scheme]; rfl,
          .unknownScheme named loadable unknown rfl rfl⟩
      | ok palette =>
        have opens : opened? settings around =
            some ((machine.load around (.file settings.program)).machine, palette) := by
          simp only [opened?, seeded, scheme, ← made, loaded]
        obtain ⟨report, earlier, last, ran, protocol⟩ := protocol_of_opened opens small finite
        exact ⟨report, ran, .opened named loadable palette (Palette.mem_of_ofName scheme) _ opens
          earlier last protocol⟩
    · obtain ⟨error, refused⟩ := machine.result_load_of_not_loadable named loadable
      exact ⟨_, by simp only [run, seeded, ← made, refused]; rfl, .unloaded named loadable rfl rfl⟩

end Run

/-- A program clears the screen, and a key goes down. In the second frame the program returns
without a call, and the window is asked to close as well: the third frame is not reached, and the
window leaves with one. -/
theorem run_by_protocol_of_return :
    let settings : Settings := { program := "a", scale := 2 }
    let around : Surroundings :=
      ⟨0, fun _ => .ok ((List.replicate 10 [0x00, 0xE0]).flatten ++ [0x00, 0xEE])⟩
    let script : List Moment := [⟨none, [.keyDown "q"]⟩, ⟨some 0.5, [.close]⟩, ⟨none, []⟩]
    (-0x8000000000000000 ≤ settings.seed ∧ settings.seed < 0x8000000000000000) ∧
      settings.scale < 0x8000000000000000 ∧
      (∀ stage ∈ stagesOf settings around script,
        stage.faults = true ∨ stage.quotient.isFinite = true) ∧
      (stagesOf settings around script).map Stage.faults = [false, true] ∧
      ∃ report, run settings around script = .ok report ∧
        RunCases settings around script report := by
  intro settings around script
  have plain : settings.program.contains (Char.ofNat 0) = false := by simp [settings]
  obtain ⟨finite, faults⟩ : (∀ stage ∈ stagesOf settings around script,
      stage.faults = true ∨ stage.quotient.isFinite = true) ∧
      (stagesOf settings around script).map Stage.faults = [false, true] := by
    simp only [stagesOf, opened?, Machine.load, Program.load, Program.read, plain,
      Bool.false_eq_true, if_false]
    decide +kernel
  have seed : -0x8000000000000000 ≤ settings.seed ∧ settings.seed < 0x8000000000000000 := by
    decide
  have small : settings.scale < 0x8000000000000000 := by decide
  exact ⟨seed, small, finite, faults, run_by_protocol settings around script seed small finite⟩

def Call.isStop : Call → Bool
  | stop => true
  | _ => false

/-- A window is not stopped where something else than its machine fails. At a scale of 64 bits the
picture of a cleared screen is too large. When the clock reads infinity twice, the quotient is no
number, and so it is not infinite either. Under a name that no file can have, the program cannot be
loaded, but the result is no exit code. -/
theorem run_breaks_off :
    let around : Surroundings := ⟨0, fun _ => .ok [0x00, 0xE0, 0x12, 0x02]⟩
    let large : Settings := { program := "a", scale := 0x8000000000000000 }
    let small : Settings := { program := "a", scale := 1 }
    let unnamed : Settings := { program := String.singleton (Char.ofNat 0) }
    let endless : List Moment := [⟨some (1 / 0), []⟩]
    let seen (report : Report) := (report.result, report.calls.any Call.isStop)
    (around.Loadable large.program ∧
      (stagesOf large around []).map (fun stage => stage.quotient.isFinite) = [true] ∧
      (run large around []).map seen = .ok (.error .overflow, false)) ∧
    (around.Loadable small.program ∧
      (stagesOf small around endless).map Stage.quotient = [.notANumber] ∧
      (run small around endless).map seen = .ok (.error .noNumber, false)) ∧
    (run unnamed around []).map seen = .ok (.error .zeroInName, false) := by
  intro around large small unnamed endless seen
  have plain : "a".contains (Char.ofNat 0) = false := by simp
  have zero : (String.singleton (Char.ofNat 0)).contains (Char.ofNat 0) = true := by simp
  have loadable : around.Loadable large.program ∧ around.Loadable small.program :=
    ⟨⟨_, rfl, by decide, by decide⟩, ⟨_, rfl, by decide, by decide⟩⟩
  refine ⟨⟨loadable.1, ?_, ?_⟩, ⟨loadable.2, ?_, ?_⟩, ?_⟩
  all_goals
    simp only [run, stagesOf, opened?, Machine.load, Program.load, Program.read, large, small,
      unnamed, plain, zero, Bool.false_eq_true, if_false, if_true]
    decide +kernel

end Window

end Chip8
