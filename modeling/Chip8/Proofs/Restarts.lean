import Chip8.Proofs.Operations

/-!
# Loading and starting over

Whatever happens to a machine, it keeps what it was made with, and only a load that succeeds
changes which program a reset loads again (`Session.machine_after`). A reset that succeeds needs no
more than these: it comes to the machine as it was made, with that program loaded
(`Machine.reset_of_success`). So the history before the reset cannot be told from the load alone, by
anything that happens afterwards.
-/

namespace Chip8

namespace Machine

variable (machine : Machine) (around : Surroundings)

/-! ## What a machine keeps -/

/-- The second machine is the first in another state, with its timers at another time. -/
def Moves (before after : Machine) : Prop :=
  ∃ state timersAt, after = { before with state, timersAt }

theorem Moves.refl : machine.Moves machine :=
  ⟨_, _, rfl⟩

theorem Moves.trans {before after later : Machine} (moves : before.Moves after)
    (further : after.Moves later) : before.Moves later := by
  obtain ⟨_, _, rfl⟩ := moves
  obtain ⟨_, _, rfl⟩ := further
  exact ⟨_, _, rfl⟩

theorem moves_reset : machine.Moves (machine.reset around).machine := by
  simp only [reset]
  split
  · exact ⟨_, _, rfl⟩
  · split <;> exact ⟨_, _, rfl⟩

theorem moves_run (count : Int) : machine.Moves (machine.run around count).machine := by
  rw [run, machine_checkFault]
  exact ⟨_, _, rfl⟩

theorem moves_cycles (count : Nat) : machine.Moves (machine.cycles around count).machine := by
  cases count with
  | zero => exact .refl machine
  | succ count =>
    obtain ⟨traced, -, slowly⟩ := machine.cycles_succ around count
    rw [slowly, machine_checkFault]
    exact ⟨_, _, rfl⟩

theorem moves_runWithProgress {ω : Type} (count : Int) :
    machine.Moves (machine.runWithProgress (ω := ω) around count).machine := by
  unfold runWithProgress
  split
  · exact .refl machine
  · next after events _ =>
    have arrived : machine.Moves (machine.arriveAt around.now after).checkFault.machine := by
      rw [machine_checkFault]
      exact ⟨_, _, rfl⟩
    exact Outcome.machine_andThen machine.Moves arrived fun _ => arrived

theorem moves_tick : machine.Moves machine.tick.machine := by
  simp only [tick, deliverBeep]
  split
  · rw [machine_callHandler]
    exact ⟨_, _, rfl⟩
  · exact ⟨_, _, rfl⟩

theorem onBeep_tick : machine.tick.machine.onBeep = machine.onBeep := by
  obtain ⟨_, _, moved⟩ := machine.moves_tick
  rw [moved]

theorem moves_updateTimers : machine.Moves (machine.updateTimers around).machine :=
  updateTimers_preserves machine.Moves (fun before moves => moves.trans before.moves_tick)
    (fun _ _ moves => moves.trans ⟨_, _, rfl⟩) (.refl machine) around

theorem moves_setKeypad (keys : Nested Bool) : machine.Moves (machine.setKeypad keys).machine := by
  unfold setKeypad
  split <;> exact ⟨_, _, rfl⟩

/-! ## Loads and resets -/

/-- A load fails and leaves everything as it was, or the program is in memory afterwards, a reset
will load it again, and the timers stand still. -/
theorem load_cases (program : Program) :
    (∃ failure, machine.load around program = ⟨machine, [], .error failure⟩) ∨
    ∃ loaded size, program.load around machine.state = .ok (loaded, size) ∧
      machine.load around program =
        ⟨{ machine with state := loaded, program := some program, timersAt := none },
          [.programLoaded program.source size], .ok ()⟩ := by
  unfold load
  cases placed : program.load around machine.state with
  | error failure => exact .inl ⟨failure, rfl⟩
  | ok both => exact .inr ⟨both.1, both.2, rfl, rfl⟩

theorem load_of_failure {program : Program} {failure : Failure}
    (failed : (machine.load around program).result = .error failure) :
    machine.load around program = ⟨machine, [], .error failure⟩ := by
  rcases machine.load_cases around program with ⟨other, same⟩ | ⟨_, _, _, same⟩
  · rw [same] at failed ⊢
    rw [← failed]
  · rw [same] at failed
    contradiction

/-- A reset that succeeds comes to the machine as it was made, with the last program loaded if there
is one. -/
theorem reset_of_success (success : (machine.reset around).result = .ok ()) :
    let made := create machine.seed machine.logger machine.onBeep
    match machine.program with
    | none => (machine.reset around).machine = made
    | some program => (made.load around program).result = .ok () ∧
        (machine.reset around).machine = (made.load around program).machine := by
  rcases machine with ⟨seed, logger, onBeep, state, _ | program, timersAt⟩
  · rfl
  · cases placed : program.load around (State.fresh seed) with
    | error failure => simp [reset, placed] at success
    | ok both => simp [reset, load, create, placed, done]

end Machine

/-! ## What can be seen of a session -/

/-- What can be seen of a reply: the answer or the failure, the text that was written, and the state
that the machine is left in. -/
def Reply.seen (reply : Reply) : Except Failure Response × String × State :=
  (reply.result, reply.written, reply.session.machine.state)

namespace Session

/-- Nothing that can happen to two sessions tells them apart. -/
def Indistinguishable (first second : Session) : Prop :=
  ∀ history, (first.replies history).map Reply.seen = (second.replies history).map Reply.seen

/-- The program that is loaded in a happening, if one is. -/
def loaded? (session : Session) (happening : Happening) : Option Program :=
  match happening, (session.perform happening).result with
  | .load program, .ok _ => some program
  | _, _ => none

/-- The program that was loaded last in a history, if one was. -/
def lastLoaded? (session : Session) : List Happening → Option Program
  | [] => none
  | happening :: rest =>
    ((session.perform happening).session.lastLoaded? rest).or (session.loaded? happening)

/-! ## Histories -/

/-- A load that fails changes nothing, and nothing is told about it. -/
theorem perform_load_of_failure {session : Session} {program : Program} {failure : Failure}
    (failed : (session.perform (.load program)).result = .error failure) :
    session.perform (.load program) = ⟨session, [], .error failure⟩ := by
  cases result : (session.machine.load session.around program).result with
  | ok => simp [perform, absorb, result, Except.map] at failed
  | error cause =>
    have unchanged := session.machine.load_of_failure session.around result
    simp only [perform, absorb, unchanged, Except.map, Except.error.injEq] at failed ⊢
    rw [failed]

theorem moves_perform (session : Session) {happening : Happening}
    (other : ∀ program, happening ≠ .load program) :
    session.machine.Moves (session.perform happening).session.machine := by
  cases happening with
  | load program => exact absurd rfl (other program)
  | reset => exact session.machine.moves_reset session.around
  | cycles count => exact session.machine.moves_cycles session.around count
  | run count => exact session.machine.moves_run session.around count
  | runWithProgress count => exact session.machine.moves_runWithProgress session.around count
  | setKeypad keys => exact session.machine.moves_setKeypad keys
  | tick => exact session.machine.moves_tick
  | updateTimers => exact session.machine.moves_updateTimers session.around
  | takeFrame => exact ⟨_, _, rfl⟩
  | clockReads | fileAppears | fileVanishes => exact .refl session.machine

theorem loaded?_eq_none (session : Session) {happening : Happening}
    (other : ∀ program, happening ≠ .load program) : session.loaded? happening = none := by
  cases happening with
  | load program => exact absurd rfl (other program)
  | _ => rfl

/-- Only a load that succeeds changes what a reset loads again; nothing changes what the machine was
made with. -/
theorem machine_perform (session : Session) (happening : Happening) :
    ∃ state timersAt, (session.perform happening).session.machine =
      { session.machine with
        state, timersAt, program := (session.loaded? happening).or session.machine.program } := by
  by_cases loads : ∃ program, happening = .load program
  · obtain ⟨program, rfl⟩ := loads
    rcases session.machine.load_cases session.around program with
      ⟨failure, same⟩ | ⟨loaded, size, -, same⟩
    · refine ⟨session.machine.state, session.machine.timersAt, ?_⟩
      simp only [loaded?, perform, absorb, same, Except.map, Option.none_or]
    · refine ⟨loaded, none, ?_⟩
      simp only [loaded?, perform, absorb, same, Except.map, Option.some_or]
  · have other : ∀ program, happening ≠ .load program := fun program same => loads ⟨program, same⟩
    obtain ⟨state, timersAt, moved⟩ := session.moves_perform other
    exact ⟨state, timersAt, by rw [moved, session.loaded?_eq_none other, Option.none_or]⟩

theorem machine_after (session : Session) (history : List Happening) :
    ∃ state timersAt, (session.after history).machine =
      { session.machine with
        state, timersAt, program := (session.lastLoaded? history).or session.machine.program } := by
  induction history generalizing session with
  | nil => exact ⟨_, _, rfl⟩
  | cons happening rest ih =>
    obtain ⟨_, _, first⟩ := session.machine_perform happening
    obtain ⟨state, timersAt, later⟩ := ih (session.perform happening).session
    refine ⟨state, timersAt, ?_⟩
    change ((session.perform happening).session.after rest).machine = _
    rw [later, first, lastLoaded?, Option.or_assoc]

/-- The reset of a session that succeeds is the reset of its machine. -/
theorem machine_reset_of_ok {session : Session} {answer : Response}
    (success : (session.perform .reset).result = .ok answer) :
    (session.machine.reset session.around).result = .ok () := by
  cases result : (session.machine.reset session.around).result with
  | ok => rfl
  | error failure => simp [perform, absorb, result, Except.map] at success

/-- **Starting over.** Take a machine that no program was loaded into so far, and any history of it.
A load that fails then leaves everything as it was: state, timers, log, and what a reset would load.
And a reset that succeeds leaves a session that cannot be told from one with a machine that was just
made the same way, on which the program of the last load that succeeded was loaded now; or nothing,
if there was no such load. -/
theorem reset_erases_history {session : Session} (unloaded : session.machine.program = none)
    (history : List Happening) :
    let now := session.after history
    let machine := session.machine
    let unused := { now with machine := .create machine.seed machine.logger machine.onBeep }
    (∀ program failure, (now.perform (.load program)).result = .error failure →
      (now.perform (.load program)).session = now ∧
      (now.perform (.load program)).written = "") ∧
    ∀ answer, (now.perform .reset).result = .ok answer →
      match session.lastLoaded? history with
      | none => (now.perform .reset).session.Indistinguishable unused
      | some program =>
        (unused.perform (.load program)).result = .ok .done ∧
          (now.perform .reset).session.Indistinguishable
            (unused.perform (.load program)).session := by
  intro now machine unused
  refine ⟨fun program failure failed => ?_, fun answer success => ?_⟩
  · rw [perform_load_of_failure failed]
    exact ⟨rfl, rfl⟩
  · have restarted := now.machine.reset_of_success now.around (machine_reset_of_ok success)
    obtain ⟨state, timersAt, kept⟩ := session.machine_after history
    have last : now.machine.program = session.lastLoaded? history := by
      rw [kept, unloaded, Option.or_none]
    have made : Machine.create now.machine.seed now.machine.logger now.machine.onBeep =
        unused.machine := by rw [kept]
    rw [last, made] at restarted
    cases known : session.lastLoaded? history with
    | none =>
      rw [known] at restarted
      have same : (now.perform .reset).session = unused :=
        congrArg (fun machine => { now with machine }) restarted
      rw [same]
      exact fun _ => rfl
    | some program =>
      rw [known] at restarted
      obtain ⟨loads, same⟩ := restarted
      have alike : (now.perform .reset).session = (unused.perform (.load program)).session :=
        congrArg (fun machine => { now with machine }) same
      refine ⟨?_, ?_⟩
      · change (unused.machine.load now.around program).result.map _ = _
        rw [loads]
        rfl
      · rw [alike]
        exact fun _ => rfl

/-- A program is loaded, runs and asks for a sound, and the sound runs out. The program after it is
empty and cannot be loaded, so the reset loads the first again. -/
theorem reset_erases_history_of_failed_load :
    let logger : Logger := ⟨"Chip8", "INFO", false, false, false, 0⟩
    let session : Session := ⟨.create ⟨0, 7⟩ logger (.writes "beep"), 0, Files.empty⟩
    let program : Program := .bytes [0x60, 0x01, 0xF0, 0x18]
    let history : List Happening := [.load program, .cycles 2, .clockReads 1, .tick,
      .load (.bytes []), .cycles 1]
    let now := session.after history
    let unused := { now with machine := .create ⟨0, 7⟩ logger (.writes "beep") }
    session.machine.program = none ∧ (now.perform .reset).result = .ok .done ∧
      session.lastLoaded? history = some program ∧
      (now.perform .reset).session.Indistinguishable (unused.perform (.load program)).session := by
  intro logger session program history now unused
  have unloaded : session.machine.program = none := rfl
  have known : session.lastLoaded? history = some program := by decide +kernel
  have success : (now.perform .reset).result = .ok .done := by
    obtain ⟨state, timersAt, kept⟩ := session.machine_after history
    have last : now.machine.program = some program := by rw [kept, known, Option.some_or]
    simp only [perform, absorb, Machine.reset, last]
    rfl
  obtain ⟨-, restarted⟩ := reset_erases_history unloaded history
  have alike := restarted .done success
  rw [known] at alike
  exact ⟨unloaded, success, known, alike.2⟩

end Session

end Chip8
