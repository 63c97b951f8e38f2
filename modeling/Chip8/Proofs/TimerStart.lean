import Mathlib.Control.Monad.Basic
import Chip8.Proofs.Halting
import Chip8.Proofs.Restarts

/-!
# When the timers run

The timers of a machine stand still until cycles are run, and then no tick is due, whatever the
clock reads. Cycles let them run on, and a load or a reset that succeeds stops them again
(`Session.timersRun_perform`). So they run after a history if cycles were run in it and nothing has
been loaded or reset with success since (`Session.timersRun_after`). A reset that fails is no such
end: it leaves a fresh state behind, and the timers as they were.
-/

namespace Chip8

namespace Machine

/-- Whether the timers run. -/
def timersRun (machine : Machine) : Bool :=
  machine.timersAt.isSome

variable (machine : Machine) (around : Surroundings)

/-! ## Operations -/

theorem machine_cycles_succ (count : Nat) :
    (machine.cycles around (count + 1)).machine =
      machine.arriveAt around.now (State.steps (count + 1) machine.state) := by
  obtain ⟨traced, -, slowly⟩ := machine.cycles_succ around count
  rw [slowly, machine_checkFault]

theorem timersRun_cycles_succ (count : Nat) :
    (machine.cycles around (count + 1)).machine.timersRun = true := by
  rw [machine_cycles_succ]
  rfl

theorem timersRun_run (count : Int) : (machine.run around count).machine.timersRun = true := by
  rw [run, machine_checkFault]
  rfl

theorem timersRun_runWithProgress {ω : Type} {count : Int} (countable : Progress.Countable count) :
    (machine.runWithProgress (ω := ω) around count).machine.timersRun = true := by
  obtain ⟨events, barred⟩ := machine.runWithProgress_of_countable (ω := ω) around countable
  have ran := machine.timersRun_run around count
  rw [barred]
  exact Outcome.machine_andThen (fun after => after.timersRun = true) ran fun _ => ran

theorem timersRun_tick : machine.tick.machine.timersRun = machine.timersRun :=
  congrArg Option.isSome machine.timersAt_tick

theorem timersRun_ticks (count : Nat) :
    (machine.ticks count).machine.timersRun = machine.timersRun :=
  congrArg Option.isSome (machine.timersAt_ticks count)

theorem timersRun_updateTimers :
    (machine.updateTimers around).machine.timersRun = machine.timersRun := by
  cases due : machine.due? around with
  | none =>
    rw [machine_updateTimers_of_idle due]
  | some both =>
    have runs : machine.timersRun = true := by
      unfold due? at due
      split at due
      · contradiction
      · next last known => simp [timersRun, known]
    rw [machine_updateTimers_of_due due, runs]
    exact timersRun_ticks { machine with timersAt := some both.2 } (min both.1 tickLimit)

theorem timersRun_setKeypad (keys : Nested Bool) :
    (machine.setKeypad keys).machine.timersRun = machine.timersRun := by
  unfold setKeypad
  split <;> rfl

/-- A load that succeeds stops the timers; one that fails leaves them alone. -/
theorem timersRun_load (program : Program) :
    (machine.load around program).machine.timersRun =
      (!(machine.load around program).result.isOk && machine.timersRun) := by
  unfold load
  split <;> rfl

/-- A reset that succeeds stops the timers; one that fails leaves them alone. -/
theorem timersRun_reset :
    (machine.reset around).machine.timersRun =
      (!(machine.reset around).result.isOk && machine.timersRun) := by
  simp only [reset]
  split
  · rfl
  · split <;> rfl

/-- A reset whose program cannot be read leaves a fresh state, and the timers at their time. -/
theorem reset_of_unread {program : Program} {failure : Failure}
    (known : machine.program = some program) (missing : program.read around = .error failure) :
    machine.reset around =
      ⟨{ machine with state := State.fresh machine.seed }, [], .error failure⟩ := by
  simp only [reset, known, Program.load_of_unread missing]

/-- While the timers stand still, no tick is due, whatever the clock reads. -/
theorem updateTimers_of_standing (standing : machine.timersRun = false) :
    machine.updateTimers around = ⟨machine, [], .ok 0⟩ := by
  have unknown : machine.timersAt = none := by simpa [timersRun] using standing
  simp only [updateTimers, unknown]

end Machine

namespace Session

variable {session : Session} {happening : Happening}

/-! ## Histories -/

/-- Whether a happening is a load or a reset that succeeds. -/
def renews (session : Session) (happening : Happening) : Bool :=
  match happening with
  | .load _ | .reset => (session.perform happening).result.isOk
  | _ => false

/-- No load and no reset in a history succeeds. -/
def GoesOn (session : Session) (history : List Happening) : Prop :=
  ∀ earlier happening later, history = earlier ++ happening :: later →
    (session.after earlier).renews happening = false

/-- Cycles are run in a history, and no load and no reset after them succeeds. -/
def HasRun (session : Session) (history : List Happening) : Prop :=
  ∃ earlier run later, history = earlier ++ run :: later ∧ run.looksForFault = true ∧
    (session.after (earlier ++ [run])).GoesOn later

theorem renews_of_run (session : Session) (runs : happening.looksForFault = true) :
    session.renews happening = false := by
  cases happening with
  | load | reset => contradiction
  | _ => rfl

theorem isOk_absorb {α : Type} (session : Session) (outcome : Outcome α) (answer : α → Response) :
    (session.absorb outcome answer).result.isOk = outcome.result.isOk := by
  cases failed : outcome.result <;> simp only [absorb, failed] <;> rfl

/-- Cycles let the timers run, a load or a reset that succeeds stops them, and nothing else touches
them. -/
theorem timersRun_perform (session : Session) (happening : Happening) :
    (session.perform happening).session.machine.timersRun =
      (!session.renews happening &&
        (happening.looksForFault || session.machine.timersRun)) := by
  cases happening with
  | load program =>
    simp only [renews, perform, isOk_absorb, Happening.looksForFault, Bool.false_or]
    exact session.machine.timersRun_load session.around program
  | reset =>
    simp only [renews, perform, isOk_absorb, Happening.looksForFault, Bool.false_or]
    exact session.machine.timersRun_reset session.around
  | cycles count =>
    cases count with
    | zero => rfl
    | succ count => exact session.machine.timersRun_cycles_succ session.around count
  | run count => exact session.machine.timersRun_run session.around count
  | runWithProgress count =>
    by_cases countable : Progress.Countable count
    · simp only [renews, Happening.looksForFault, countable, decide_true, Bool.true_or]
      exact session.machine.timersRun_runWithProgress session.around countable
    · simp only [renews, Happening.looksForFault, countable, decide_false, Bool.false_or, perform,
        absorb, Machine.runWithProgress,
        State.runWithProgress_of_not_countable session.machine.state countable]
      rfl
  | setKeypad keys => exact session.machine.timersRun_setKeypad keys
  | tick => exact session.machine.timersRun_tick
  | updateTimers => exact session.machine.timersRun_updateTimers session.around
  | takeFrame | clockReads | fileAppears | fileVanishes => rfl

theorem goesOn_cons {rest : List Happening} : session.GoesOn (happening :: rest) ↔
    session.renews happening = false ∧ (session.perform happening).session.GoesOn rest := by
  constructor
  · intro goesOn
    exact ⟨goesOn [] happening rest rfl, fun earlier later rest split =>
      goesOn (happening :: earlier) later rest (by rw [split]; rfl)⟩
  · rintro ⟨now, onwards⟩ earlier later rest split
    cases earlier with
    | nil =>
      obtain ⟨rfl, -⟩ := List.cons.inj split
      exact now
    | cons first earlier =>
      obtain ⟨rfl, further⟩ := List.cons.inj split
      exact onwards earlier later rest further

theorem hasRun_cons {rest : List Happening} : session.HasRun (happening :: rest) ↔
    happening.looksForFault = true ∧ (session.perform happening).session.GoesOn rest ∨
      (session.perform happening).session.HasRun rest := by
  constructor
  · rintro ⟨earlier, run, later, split, runs, goesOn⟩
    cases earlier with
    | nil =>
      obtain ⟨rfl, rfl⟩ := List.cons.inj split
      exact .inl ⟨runs, goesOn⟩
    | cons first earlier =>
      obtain ⟨rfl, further⟩ := List.cons.inj split
      exact .inr ⟨earlier, run, later, further, runs, goesOn⟩
  · rintro (⟨runs, goesOn⟩ | ⟨earlier, run, later, split, runs, goesOn⟩)
    · exact ⟨[], happening, rest, rfl, runs, goesOn⟩
    · exact ⟨happening :: earlier, run, later, by rw [split]; rfl, runs, goesOn⟩

/-- The timers run after a history if cycles let them run in it, or if they ran before and nothing
in it stops them. -/
theorem timersRun_after (session : Session) (history : List Happening) :
    (session.after history).machine.timersRun = true ↔
      session.HasRun history ∨ session.machine.timersRun = true ∧ session.GoesOn history := by
  induction history generalizing session with
  | nil =>
    have none : ¬ session.HasRun [] := by simp [HasRun]
    have trivially : session.GoesOn [] := by simp [GoesOn]
    simp only [none, trivially, false_or, and_true]
    rfl
  | cons happening rest ih =>
    rw [goesOn_cons, hasRun_cons]
    refine (ih (session.perform happening).session).trans ?_
    rw [timersRun_perform, Bool.and_eq_true, Bool.not_eq_true', Bool.or_eq_true]
    constructor
    · rintro (ran | ⟨⟨keeps, runs | ran⟩, goesOn⟩)
      · exact .inl (.inr ran)
      · exact .inl (.inl ⟨runs, goesOn⟩)
      · exact .inr ⟨ran, keeps, goesOn⟩
    · rintro ((⟨runs, goesOn⟩ | ran) | ⟨ran, keeps, goesOn⟩)
      · exact .inr ⟨⟨session.renews_of_run runs, .inl runs⟩, goesOn⟩
      · exact .inl ran
      · exact .inr ⟨⟨keeps, .inr ran⟩, goesOn⟩

/-- A machine starts over at the end of a history: it was just made, or reset, also in vain, or a
program was loaded into it. -/
def StartsOver (session : Session) (history : List Happening) : Prop :=
  history = [] ∨ ∃ earlier last, history = earlier ++ [last] ∧
    (last = .reset ∨ (session.after earlier).renews last = true)

/-- A history ends with a reset that fails, and cycles had been run since the last load or reset
that succeeded. -/
def FailsAfterRun (session : Session) (history : List Happening) : Prop :=
  ∃ earlier, history = earlier ++ [.reset] ∧ (session.after earlier).renews .reset = false ∧
    session.HasRun earlier

/-- A machine whose timers stand still starts over, and its timers run only if this is a reset that
fails after cycles. -/
theorem timersRun_startsOver {history : List Happening}
    (standing : session.machine.timersRun = false) (begun : session.StartsOver history) :
    (session.after history).machine.timersRun = true ↔ session.FailsAfterRun history := by
  rcases begun with rfl | ⟨earlier, last, rfl, restarts⟩
  · have nothing : ¬ session.FailsAfterRun [] := by simp [FailsAfterRun]
    change session.machine.timersRun = true ↔ _
    simp [nothing, standing]
  · have ran := session.timersRun_after earlier
    rw [standing] at ran
    simp only [Bool.false_eq_true, false_and, or_false] at ran
    have ended : (session.after (earlier ++ [last])).machine.timersRun =
        ((session.after earlier).perform last).session.machine.timersRun := by
      rw [after_append]
      rfl
    rw [ended, timersRun_perform, Bool.and_eq_true, Bool.not_eq_true', Bool.or_eq_true, ran]
    constructor
    · rintro ⟨fails, runs⟩
      obtain rfl := restarts.resolve_right (by simp [fails])
      exact ⟨earlier, rfl, fails, runs.resolve_left nofun⟩
    · rintro ⟨before, split, fails, runs⟩
      obtain ⟨rfl, same⟩ := List.append_inj' split rfl
      obtain ⟨rfl, -⟩ := List.cons.inj same
      exact ⟨fails, .inr runs⟩

/-- **Timers before the first cycle.** Let a machine start over at the end of a history: it was just
made, or reset, also in vain, or a program was loaded into it. As long as it is not started over
again and no cycles are run, no tick is due, whatever the clock reads, and asking for ticks changes
nothing; except after a reset that failed when cycles had been run since the last load or reset that
succeeded. Then the timers run on by their old time. -/
theorem standing_timers_iff (seed : Random.Pair) (logger : Logger) (onBeep : BeepHandler)
    (now : Float) (files : Files) {before since : List Happening}
    (begun : StartsOver ⟨.create seed logger onBeep, now, files⟩ before)
    (goesOn : GoesOn (after ⟨.create seed logger onBeep, now, files⟩ before) since)
    (unmoved : ∀ happening ∈ since, happening.looksForFault = false) :
    let start : Session := ⟨.create seed logger onBeep, now, files⟩
    let session := start.after (before ++ since)
    (session.machine.timersAt = none ↔ ¬ start.FailsAfterRun before) ∧
    (¬ start.FailsAfterRun before → ∀ reading : Float,
      let read := { session with now := reading }
      read.perform .updateTimers = ⟨read, [], .ok (.count 0)⟩) := by
  intro start session
  have idle : ¬ (start.after before).HasRun since := by
    rintro ⟨earlier, run, later, rfl, runs, -⟩
    have still := unmoved run (by simp)
    simp [still] at runs
  have ran : session.machine.timersRun = true ↔ start.FailsAfterRun before := by
    rw [show session = (start.after before).after since from after_append _ _ _, timersRun_after,
      timersRun_startsOver rfl begun]
    exact ⟨fun either => (either.resolve_left idle).1, fun fails => .inr ⟨fails, goesOn⟩⟩
  have stands : session.machine.timersAt = none ↔ ¬ start.FailsAfterRun before := by
    rw [← ran, Machine.timersRun, Bool.not_eq_true, Option.isSome_eq_false_iff,
      Option.isNone_iff_eq_none]
  refine ⟨stands, fun regular reading => ?_⟩
  have standing : session.machine.timersRun = false := by
    rw [Machine.timersRun, stands.mpr regular]
    rfl
  simp only [perform, absorb, Machine.updateTimers_of_standing _ _ standing]
  rfl

/-- A program runs, and another one is loaded. A tick is applied and time goes by, but the second
program does not run. -/
theorem standing_timers_iff_after_second_load :
    let logger : Logger := ⟨"Chip8", "INFO", false, false, false, 0⟩
    let start : Session := ⟨.create ⟨0, 0⟩ logger .absent, 0, Files.empty⟩
    let before : List Happening :=
      [.load (.bytes [0x12, 0x00]), .cycles 2, .clockReads 1, .load (.bytes [0x60, 0x05])]
    let since : List Happening := [.tick, .clockReads 2, .updateTimers]
    let session := start.after (before ++ since)
    start.StartsOver before ∧ (start.after before).GoesOn since ∧
      (∀ happening ∈ since, happening.looksForFault = false) ∧ start.HasRun (before.take 3) ∧
      session.machine.timersAt = none ∧
      ({ session with now := 9 }.perform .updateTimers).result = .ok (.count 0) := by
  intro logger start before since session
  have loaded : (start.after (before.take 3)).renews (.load (.bytes [0x60, 0x05])) = true := by
    decide +kernel
  have begun : start.StartsOver before := .inr ⟨before.take 3, _, rfl, .inr loaded⟩
  have goesOn : (start.after before).GoesOn since :=
    goesOn_cons.mpr ⟨rfl, goesOn_cons.mpr ⟨rfl, goesOn_cons.mpr ⟨rfl, by simp [GoesOn]⟩⟩⟩
  have unmoved : ∀ happening ∈ since, happening.looksForFault = false := by
    simp [since, Happening.looksForFault]
  have ran : start.HasRun (before.take 3) :=
    ⟨before.take 1, .cycles 2, [.clockReads 1], rfl, rfl, goesOn_cons.mpr ⟨rfl, by simp [GoesOn]⟩⟩
  have regular : ¬ start.FailsAfterRun before := by
    rintro ⟨earlier, split, -⟩
    have last := congrArg List.getLast? split
    simp [before] at last
  obtain ⟨stands, standing⟩ :=
    standing_timers_iff ⟨0, 0⟩ logger .absent 0 Files.empty begun goesOn unmoved
  exact ⟨begun, goesOn, unmoved, ran, stands.mpr regular,
    congrArg Reply.result (standing regular 9)⟩

/-- A program is read from a file and runs. The file vanishes, and a second later the machine is
reset in vain: it has a fresh state, on which no cycle was run, and sixty ticks are due. -/
theorem ticks_due_after_failed_reset :
    let logger : Logger := ⟨"Chip8", "INFO", false, false, false, 0⟩
    let files := Files.empty.write "a" (.file [0x12, 0x00])
    let start : Session := ⟨.create ⟨0, 0⟩ logger .absent, 0, files⟩
    let history : List Happening :=
      [.load (.file "a"), .cycles 1, .fileVanishes "a", .clockReads 1, .reset]
    let session := start.after history
    start.StartsOver history ∧
      session.machine.state = State.fresh ⟨0, 0⟩ ∧
      (session.perform .updateTimers).result = .ok (.count 60) ∧
      (session.perform .updateTimers).session.machine.timersAt ≠ session.machine.timersAt := by
  intro logger files start history session
  have plain : "a".contains (Char.ofNat 0) = false := by simp
  have parts : "a".splitOn "/" = ["a"] := by
    rw [String.splitOn, if_neg (by decide), String.splitOnAux, if_neg (by decide),
      if_neg (by decide), String.splitOnAux, if_pos (by decide)]
    rfl
  have there : files.read "a" = .ok [0x12, 0x00] := by
    simp only [files, Files.read, Files.find, Files.write, Files.place, Files.origin, parts]
    decide +kernel
  have missing : (files.remove "a").read "a" = .error .notFound := by
    simp only [files, Files.read, Files.find, Files.write, Files.remove, Files.place, Files.origin,
      parts]
    decide +kernel
  have found : (Program.file "a").read start.around = .ok [0x12, 0x00] := by
    simp only [Program.read, plain, Bool.false_eq_true, if_false]
    rw [show start.around.readFile "a" = .ok [0x12, 0x00] from there]
  have gone : (Program.file "a").read ⟨1, (files.remove "a").read⟩ =
      .error (.machine (.unreadable "a" .notFound)) := by
    simp only [Program.read, plain, missing, Bool.false_eq_true, if_false]
  have ran : ∃ state, (start.after (history.take 2)).machine =
      { start.machine with state, program := some (.file "a"), timersAt := some 0 } := by
    have success : (start.machine.load start.around (.file "a")).result = .ok () := by
      rw [Machine.result_load, Program.load_of_read found]
      rfl
    rcases start.machine.load_cases start.around (.file "a") with
      ⟨failure, failed⟩ | ⟨loaded, size, -, loads⟩
    · rw [failed] at success
      contradiction
    · refine ⟨State.steps 1 loaded, ?_⟩
      change ((start.machine.load start.around (.file "a")).machine.cycles
        start.around 1).machine = _
      rw [Machine.machine_cycles_succ, loads]
      rfl
  have left : session.machine =
      { start.machine with program := some (.file "a"), timersAt := some 0 } := by
    obtain ⟨state, ran⟩ := ran
    change ((start.after (history.take 2)).machine.reset ⟨1, (files.remove "a").read⟩).machine = _
    rw [ran, Machine.reset_of_unread _ _ rfl gone]
    rfl
  obtain ⟨counted, moved⟩ :
      (session.machine.updateTimers ⟨1, (files.remove "a").read⟩).result = .ok 60 ∧
        (session.machine.updateTimers ⟨1, (files.remove "a").read⟩).machine.timersAt ≠ some 0 := by
    rw [left]
    decide +kernel
  refine ⟨.inr ⟨history.take 4, _, rfl, .inl rfl⟩, congrArg Machine.state left,
    congrArg (Except.map Response.count) counted, fun same => moved ?_⟩
  exact same.trans (congrArg Machine.timersAt left)

end Session

end Chip8
