import Chip8.Window
import Chip8.Proofs.Operations

/-!
# Frames of a window

A frame ends in one of three ways, listed in `FrameCases`: the machine stops, something else fails,
or the frame completes. `frames` lists the frames that a loop works through. All of them go on but
the last one, and the report of the loop is made of them (`loop_comprises`).
-/

namespace Chip8.Window

/-! ## One frame -/

/-- The machine did not stop during the frame, and nothing else failed. -/
def FrameOutcome.Completes (done : FrameOutcome) : Prop :=
  done.verdict = .goOn ∨ done.verdict = .leave 0

instance (done : FrameOutcome) : Decidable done.Completes :=
  match verdict : done.verdict with
  | .goOn => .isTrue (.inl verdict)
  | .leave 0 => .isTrue (.inr verdict)
  | .leave (_ + 1) => .isFalse (by simp [FrameOutcome.Completes, verdict])
  | .breakOff _ => .isFalse (by simp [FrameOutcome.Completes, verdict])

/-- The call that begins a frame. -/
abbrev frameTick : Call := .tick Layout.timerFrequency

/-- The machine of a frame, with the keys held that the frame runs on. -/
abbrev withKeys (machine : Machine) (keypad : Keypad) : Machine :=
  { machine with state := machine.state.setKeys keypad }

/-- The cycles of a frame come to the same machine with the same result at any log level. -/
theorem runCycles_eq (machine : Machine) (around : Surroundings) :
    ∃ notes, runCycles machine around =
      { machine.run around Layout.cyclesPerFrame with notes } := by
  unfold runCycles
  split
  · obtain ⟨traced, -, slowly⟩ := machine.cycles_succ around 9
    exact ⟨_, slowly⟩
  · exact ⟨_, rfl⟩

theorem state_runCycles (machine : Machine) (around : Surroundings) :
    (runCycles machine around).machine.state = State.steps Layout.cyclesPerFrame machine.state := by
  obtain ⟨notes, ran⟩ := runCycles_eq machine around
  rw [ran]
  exact machine.state_run around _

/-- The ways a frame can end whose cycles have come out. -/
inductive FrameCases (settings : Settings) (palette : Palette) (around : Surroundings)
    (events : List Event) (ran : Outcome Unit) (done : FrameOutcome) : Prop
  /-- The machine stops, and the window leaves. -/
  | faulted (error : MachineError) (stopped : ran.result = .error (.machine error))
      (machine : done.machine = ran.machine) (calls : done.calls = [frameTick])
      (verdict : done.verdict = .leave 1)
  /-- Something else fails, and the window breaks off. -/
  | raised (failure : Failure) (calls : done.calls = [frameTick])
      (verdict : done.verdict = .breakOff failure)
  /-- The timers have caught up, and the screen was shown if it was drawn on. -/
  | completed (shownCalls : List Call) (through : ran.result = .ok ())
      (shown : (refresh ran.machine around settings.scale palette).result = .ok shownCalls)
      (machine : done.machine = (refresh ran.machine around settings.scale palette).machine)
      (calls : done.calls = frameTick :: shownCalls)
      (verdict : done.verdict = if events.any asksToClose then .leave 0 else .goOn)

section Frame

variable (settings : Settings) (palette : Palette) (around : Surroundings) (machine : Machine)
  (keypad : Keypad) (events : List Event)

theorem frameCases :
    FrameCases settings palette around events
      (runCycles (withKeys machine (events.foldl press keypad)) around)
      (frame settings palette around machine keypad events) := by
  simp only [frame]
  generalize runCycles (withKeys machine (events.foldl press keypad)) around = ran
  rcases ran with ⟨ranMachine, notes, failure | _⟩
  · cases failure with
    | machine error => exact .faulted error rfl rfl rfl rfl
    | _ => exact .raised _ rfl rfl
  · cases shown : (refresh ranMachine around settings.scale palette).result with
    | error failure => refine .raised failure ?_ ?_ <;> simp only [settle, shown]
    | ok calls => refine .completed calls rfl shown ?_ ?_ ?_ <;> simp only [settle, shown]

/-- A frame leaves the keys held that its events leave held. -/
theorem keypad_frame :
    (frame settings palette around machine keypad events).keypad = events.foldl press keypad := by
  simp only [frame, settle]
  split
  · rfl
  · rfl
  · split <;> rfl

/-- A frame does not go on in which the window is asked to close. -/
theorem verdict_of_asked (asked : events.any asksToClose = true) :
    (frame settings palette around machine keypad events).verdict ≠ .goOn := by
  cases frameCases settings palette around machine keypad events with
  | faulted _ _ _ _ verdict => simp [verdict]
  | raised _ _ verdict => simp [verdict]
  | completed _ _ _ _ _ verdict => simp [verdict, asked]

end Frame

/-! ## The frames of a loop -/

section Play

variable (settings : Settings) (palette : Palette)

/-- Goes on with further frames if the last one went on. -/
def FrameOutcome.before (done : FrameOutcome) (later : List FrameOutcome) : List FrameOutcome :=
  match done.verdict with
  | .goOn => done :: later
  | _ => [done]

/-- The frames that a loop works through: those of the script up to one that does not go on, and if
there is none, one more in which the window is asked to close. -/
def frames (around : Surroundings) (machine : Machine) (keypad : Keypad) :
    List Moment → List FrameOutcome
  | [] => [Moment.last.play settings palette around machine keypad]
  | moment :: rest =>
    let done := moment.play settings palette around machine keypad
    done.before (frames (moment.around around) done.machine done.keypad rest)

end Play

theorem FrameOutcome.before_of_goOn {done : FrameOutcome} {later : List FrameOutcome}
    (going : done.verdict = .goOn) : done.before later = done :: later := by
  simp only [before, going]

theorem FrameOutcome.before_of_ends {done : FrameOutcome} {later : List FrameOutcome}
    (ends : done.verdict ≠ .goOn) : done.before later = [done] := by
  unfold before
  split
  · contradiction
  · rfl

/-- Of a frame and those after it, one is either the first or comes after it, which then went on. -/
theorem FrameOutcome.of_before {first done : FrameOutcome}
    {further earlier later : List FrameOutcome}
    (split : first.before further = earlier ++ done :: later) :
    (earlier = [] ∧ done = first) ∨ first.verdict = .goOn ∧
      ∃ more, earlier = first :: more ∧ further = more ++ done :: later := by
  by_cases going : first.verdict = .goOn
  · rw [before_of_goOn going] at split
    obtain ⟨rfl, same⟩ | ⟨more, rfl, rest⟩ := List.cons_eq_append_iff.mp split
    · exact .inl ⟨rfl, (List.cons.inj same).1⟩
    · exact .inr ⟨going, more, rfl, rest⟩
  · rw [before_of_ends going] at split
    obtain ⟨rfl, same⟩ | ⟨_, -, none⟩ := List.cons_eq_append_iff.mp split
    · exact .inl ⟨rfl, (List.cons.inj same).1⟩
    · simp at none

theorem Report.continued_of_goOn (report : Report) {done : FrameOutcome}
    {onward : Report → Report} (going : done.verdict = .goOn) :
    report.continued done onward = onward report := by
  simp only [continued, going]

section Preservation

variable {settings : Settings} {palette : Palette}
  (Holds : List FrameOutcome → Machine → Keypad → Prop)

/-- What every frame that goes on keeps, holds before each frame of a loop. -/
theorem frames_preserves
    (kept : ∀ past before machine keypad (moment : Moment), Holds past machine keypad →
      let done := moment.play settings palette before machine keypad
      done.verdict = .goOn → Holds (past ++ [done]) done.machine done.keypad)
    {past : List FrameOutcome} {around : Surroundings} {machine : Machine} {keypad : Keypad}
    (start : Holds past machine keypad) {script : List Moment} {earlier : List FrameOutcome}
    {done : FrameOutcome} {later : List FrameOutcome}
    (worked : frames settings palette around machine keypad script = earlier ++ done :: later) :
    ∃ (moment : Moment) (before : Surroundings) (ready : Machine) (held : Keypad),
      Holds (past ++ earlier) ready held ∧
        done = moment.play settings palette before ready held := by
  induction script generalizing past around machine keypad earlier with
  | nil =>
    -- the only frame is the one that closes the window
    obtain ⟨rfl, same⟩ | ⟨_, -, none⟩ := List.cons_eq_append_iff.mp worked
    · obtain ⟨rfl, -⟩ := List.cons.inj same
      exact ⟨_, _, _, _, (List.append_nil past).symm ▸ start, rfl⟩
    · simp at none
  | cons moment rest ih =>
    obtain ⟨rfl, rfl⟩ | ⟨going, more, rfl, further⟩ := FrameOutcome.of_before worked
    · exact ⟨_, _, _, _, (List.append_nil past).symm ▸ start, rfl⟩
    · have next := ih (kept past around machine keypad moment start going) further
      rwa [List.append_assoc, List.singleton_append] at next

end Preservation

/-- How a report comes of the calls before a loop and the frames of the loop. Only the last frame
does not go on. -/
structure Report.Comprises (report : Report) (before : List Call) (earlier : List FrameOutcome)
    (last : FrameOutcome) (scriptLength : Nat) : Prop where
  machine : report.machine = last.machine
  framesLeft : report.framesLeft = scriptLength - (earlier.length + 1)
  goOn : ∀ done ∈ earlier, done.verdict = .goOn
  ends : last.verdict ≠ .goOn
  /-- If the last frame leaves, the window is stopped after it. -/
  left : ∀ code, last.verdict = .leave code → report.result = .ok code ∧
    report.calls = before ++ (earlier ++ [last]).flatMap FrameOutcome.calls ++ [.stop]
  /-- If the last frame breaks off, the window is not stopped. -/
  broke : ∀ failure, last.verdict = .breakOff failure → report.result = .error failure ∧
    report.calls = before ++ (earlier ++ [last]).flatMap FrameOutcome.calls

namespace Report

/-- A report that ends with a frame comprises it. -/
theorem comprises_of_ends (report : Report) {done : FrameOutcome} (now : Float)
    (scriptLength : Nat) (onward : Report → Report) (ends : done.verdict ≠ .goOn) :
    ((report.extended done now (scriptLength - 1)).continued done onward).Comprises report.calls []
      done scriptLength := by
  have none : ∀ done ∈ ([] : List FrameOutcome), done.verdict = .goOn := by simp
  unfold continued
  split
  · contradiction
  · next code leaves =>
    refine ⟨rfl, rfl, none, ends, fun _ same => ?_, fun _ same => ?_⟩
    · cases leaves.symm.trans same
      exact ⟨rfl, by simp [extended]⟩
    · cases leaves.symm.trans same
  · next failure breaks =>
    refine ⟨rfl, rfl, none, ends, fun _ same => ?_, fun _ same => ?_⟩
    · cases breaks.symm.trans same
    · cases breaks.symm.trans same
      exact ⟨rfl, by simp [extended]⟩

/-- What a report comprises after a frame that goes on, it comprises with that frame. -/
theorem Comprises.cons {report : Report} {before : List Call} {done : FrameOutcome}
    {earlier : List FrameOutcome} {last : FrameOutcome} {rest : Nat}
    (later : report.Comprises (before ++ done.calls) earlier last rest)
    (going : done.verdict = .goOn) : report.Comprises before (done :: earlier) last (rest + 1) where
  machine := later.machine
  framesLeft := by
    rw [later.framesLeft, List.length_cons]
    omega
  goOn := List.forall_mem_cons.mpr ⟨going, later.goOn⟩
  ends := later.ends
  left code leaves := by
    obtain ⟨result, calls⟩ := later.left code leaves
    exact ⟨result, by simp [calls]⟩
  broke failure breaks := by
    obtain ⟨result, calls⟩ := later.broke failure breaks
    exact ⟨result, by simp [calls]⟩

/-- The calls of all frames are made, and at most the stop after them. -/
theorem Comprises.calls_eq {report : Report} {before : List Call} {earlier : List FrameOutcome}
    {last : FrameOutcome} {scriptLength : Nat}
    (comprises : report.Comprises before earlier last scriptLength) :
    ∃ closing, report.calls =
      before ++ (earlier ++ [last]).flatMap FrameOutcome.calls ++ closing := by
  cases verdict : last.verdict with
  | goOn => exact absurd verdict comprises.ends
  | leave code => exact ⟨_, (comprises.left code verdict).2⟩
  | breakOff failure =>
    exact ⟨[], (comprises.broke failure verdict).2.trans (List.append_nil _).symm⟩

end Report

theorem loop_comprises (settings : Settings) (palette : Palette) (around : Surroundings)
    (keypad : Keypad) (report : Report) (script : List Moment) :
    ∃ earlier last, frames settings palette around report.machine keypad script =
        earlier ++ [last] ∧
      (loop settings palette around keypad report script).Comprises report.calls earlier last
        script.length := by
  induction script generalizing around keypad report with
  | nil =>
    refine ⟨[], _, rfl, ?_⟩
    rw [loop]
    exact report.comprises_of_ends _ 0 id
      (verdict_of_asked settings palette _ report.machine keypad Moment.last.events rfl)
  | cons moment rest ih =>
    let done := moment.play settings palette around report.machine keypad
    let extended := report.extended done (moment.around around).now rest.length
    by_cases going : done.verdict = .goOn
    · obtain ⟨earlier, last, split, comprises⟩ := ih (moment.around around) done.keypad extended
      refine ⟨done :: earlier, last, ?_, ?_⟩
      · rw [frames, FrameOutcome.before_of_goOn going, List.cons_append, ← split]
        rfl
      · rw [loop, Report.continued_of_goOn _ going]
        exact comprises.cons going
    · refine ⟨[], done, ?_, ?_⟩
      · rw [frames, FrameOutcome.before_of_ends going]
        rfl
      · rw [loop]
        exact report.comprises_of_ends _ (rest.length + 1) _ going

/-! ## The frames of a run -/

/-- The machine and the palette that a window opens with, if it opens. -/
def opened? (settings : Settings) (around : Surroundings) : Option (Machine × Palette) :=
  match Random.ofSeed? settings.seed, Palette.ofName settings.scheme with
  | some key, .ok palette =>
    let loaded := (Machine.create key (logger settings around.now) .absent).load around
      (.file settings.program)
    match loaded.result with
    | .ok () => some (loaded.machine, palette)
    | .error _ => none
  | _, _ => none

/-- The frames that a run works through. There are none if the window does not open. -/
def framesOf (settings : Settings) (around : Surroundings) (script : List Moment) :
    List FrameOutcome :=
  match opened? settings around with
  | some (machine, palette) => frames settings palette around machine Keypad.released script
  | none => []

/-- A window opens once its program is loaded. -/
theorem loaded_of_opened {settings : Settings} {around : Surroundings} {machine : Machine}
    {palette : Palette} (opened : opened? settings around = some (machine, palette)) :
    ∃ key, Random.ofSeed? settings.seed = some key ∧
      Palette.ofName settings.scheme = .ok palette ∧
      let loaded := (Machine.create key (logger settings around.now) .absent).load around
        (.file settings.program)
      loaded.result = .ok () ∧ loaded.machine = machine := by
  unfold opened? at opened
  split at opened
  · next key scheme seed named =>
    simp only at opened
    split at opened
    · next loaded =>
      obtain ⟨rfl, rfl⟩ := Prod.mk.inj (Option.some.inj opened)
      exact ⟨key, seed, named, loaded, rfl⟩
    · contradiction
  · contradiction

/-- A window that works through a frame opened. -/
theorem opened_of_mem_framesOf {settings : Settings} {around : Surroundings}
    {script : List Moment} {done : FrameOutcome} (among : done ∈ framesOf settings around script) :
    ∃ machine palette, opened? settings around = some (machine, palette) ∧
      framesOf settings around script =
        frames settings palette around machine Keypad.released script := by
  cases opened : opened? settings around with
  | none => simp [framesOf, opened] at among
  | some both => exact ⟨both.1, both.2, rfl, by simp only [framesOf, opened]⟩

/-- A window that opens reports the frames of its run. -/
theorem run_comprises {settings : Settings} {around : Surroundings} {machine : Machine}
    {palette : Palette} (opened : opened? settings around = some (machine, palette))
    (script : List Moment) :
    ∃ report earlier last, run settings around script = .ok report ∧
      framesOf settings around script = earlier ++ [last] ∧
      report.Comprises (opening settings) earlier last script.length := by
  obtain ⟨key, seed, named, loaded, rfl⟩ := loaded_of_opened opened
  simp only [run, seed, loaded, named, framesOf, opened]
  obtain ⟨earlier, last, split, comprises⟩ := loop_comprises settings palette around
    Keypad.released _ script
  exact ⟨_, earlier, last, rfl, split, comprises⟩

/-- The calls of the frames so far are made in the order of the frames, after the opening. -/
theorem calls_of_framesOf {settings : Settings} {around : Surroundings} {script : List Moment}
    {earlier later : List FrameOutcome} {done : FrameOutcome}
    (worked : framesOf settings around script = earlier ++ done :: later) :
    ∃ report further, run settings around script = .ok report ∧ report.calls =
      opening settings ++ (earlier ++ [done]).flatMap FrameOutcome.calls ++ further := by
  have among : done ∈ framesOf settings around script := by simp [worked]
  obtain ⟨machine, palette, opened, -⟩ := opened_of_mem_framesOf among
  obtain ⟨report, before, last, ran, split, comprises⟩ := run_comprises opened script
  obtain ⟨closing, calls⟩ := comprises.calls_eq
  refine ⟨report, later.flatMap FrameOutcome.calls ++ closing, ran, ?_⟩
  rw [calls, ← split, worked]
  simp

end Chip8.Window
