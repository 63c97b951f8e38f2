import Chip8.Machine
import Chip8.Proofs.Histories

/-!
# Running at once and cycle by cycle

A run steps the state so many times, whether or not the machine stops on the way, and looks for a
fault once, at the end. Cycles one by one look after each step and end with the first failure. Both
come out alike because a machine that has stopped does not move. They differ in the notes of the
instructions, which only a logger at debug level prints, and with a progress bar in the counts that
the bar cannot show, which a run refuses before it begins.
-/

namespace Chip8

/-- Notes that tell of instructions only. -/
def Traced (notes : List Note) : Prop :=
  ∀ note ∈ notes, ∃ pc word, note = .instruction pc word

theorem Traced.append {first second : List Note} (firstTraced : Traced first)
    (secondTraced : Traced second) : Traced (first ++ second) := by
  intro note among
  exact (List.mem_append.mp among).elim (firstTraced note) (secondTraced note)

namespace Logger

variable {logger : Logger} (now : Float)

/-- Above debug level the notes of instructions leave no text. -/
theorem printAll_traced (quiet : logger.isEnabledFor Level.debug.name = false)
    {notes : List Note} (traced : Traced notes) :
    logger.printAll now notes = "" := by
  induction notes with
  | nil => rfl
  | cons note rest ih =>
    obtain ⟨pc, word, rfl⟩ := traced note List.mem_cons_self
    have silent : logger.print now (.instruction pc word) = "" := by
      simp only [print, instruction, log, quiet, Bool.false_eq_true, if_false]
    rw [printAll_cons, silent, String.empty_append]
    exact ih fun later among => traced later (List.mem_cons_of_mem _ among)

end Logger

namespace Outcome

variable {α β γ : Type}

/-- Two ways to do a thing come out alike: they leave the same machine, succeed both or fail alike,
and write the same text to a logger above debug level. -/
structure Agrees (first : Outcome α) (second : Outcome β) : Prop where
  machine : first.machine = second.machine
  result : first.result.map (fun _ => ()) = second.result.map (fun _ => ())
  text : first.machine.logger.isEnabledFor Level.debug.name = false → ∀ now : Float,
    first.machine.logger.printAll now first.notes = second.machine.logger.printAll now second.notes

theorem Agrees.trans {first : Outcome α} {second : Outcome β} {third : Outcome γ}
    (left : first.Agrees second) (right : second.Agrees third) : first.Agrees third where
  machine := left.machine.trans right.machine
  result := left.result.trans right.result
  text quiet now := (left.text quiet now).trans (right.text (left.machine ▸ quiet) now)

/-- What a success answers makes no difference. -/
theorem agrees_andThen (first : Outcome α) (value : β) :
    (first.andThen fun next _ => ⟨next, [], .ok value⟩).Agrees first := by
  cases success : first.result with
  | ok answer =>
    rw [andThen_of_ok _ success]
    refine ⟨rfl, by rw [success]; rfl, fun _ _ => ?_⟩
    simp only [List.append_nil]
  | error failure =>
    rw [andThen_of_error _ success]
    exact ⟨rfl, by rw [success]; rfl, fun _ _ => rfl⟩

/-- Notes of instructions in front make no difference. -/
theorem agrees_traced (checked : Outcome α) {traced : List Note} (instructions : Traced traced) :
    checked.Agrees { checked with notes := traced ++ checked.notes } where
  machine := rfl
  result := rfl
  text quiet now := by
    rw [Logger.printAll_append, Logger.printAll_traced now quiet instructions, String.empty_append]

end Outcome

namespace Machine

variable {machine : Machine}

/-- The machine that has come to a state by cycles, with its timers running. -/
def arriveAt (machine : Machine) (now : Float) (state : State) : Machine :=
  { machine with state }.startTimers now

variable {around : Surroundings} {state : State} {error : MachineError}

theorem checkFault_of_running (machine : Machine) (now : Float) (running : state.error? = none) :
    (machine.arriveAt now state).checkFault = ⟨machine.arriveAt now state, [], .ok ()⟩ := by
  unfold checkFault
  split
  · rfl
  · next stopped => cases running.symm.trans stopped

theorem checkFault_of_stopped (machine : Machine) (now : Float)
    (stopped : state.error? = some error) :
    (machine.arriveAt now state).checkFault =
      ⟨machine.arriveAt now state, [.stopped error], .error (.machine error)⟩ := by
  unfold checkFault
  split
  · next running => cases running.symm.trans stopped
  · next other =>
    cases other.symm.trans stopped
    rfl

/-! ## One cycle after the other -/

theorem traced_preview (machine : Machine) : Traced machine.preview := by
  intro note among
  simp only [preview, Option.mem_toList, Option.map_eq_some_iff] at among
  obtain ⟨word, -, rfl⟩ := among
  exact ⟨_, _, rfl⟩

theorem cycle_of_running (running : machine.state.step.error? = none) :
    machine.cycle around =
      ⟨machine.arriveAt around.now machine.state.step, machine.preview ++ [], .ok ()⟩ := by
  have checked := checkFault_of_running machine around.now running
  rw [arriveAt] at checked ⊢
  simp only [cycle, checked]

theorem cycle_of_stopped (stopped : machine.state.step.error? = some error) :
    machine.cycle around = ⟨machine.arriveAt around.now machine.state.step,
      machine.preview ++ [.stopped error], .error (.machine error)⟩ := by
  have checked := checkFault_of_stopped machine around.now stopped
  rw [arriveAt] at checked ⊢
  simp only [cycle, checked]

/-- A state with an error does not move. -/
theorem steps_of_error (stopped : state.error? = some error) (count : Nat) :
    State.steps count state = state := by
  apply State.steps_of_halted
  obtain ⟨fault, halts, -⟩ := Option.map_eq_some_iff.mp stopped
  simp [State.halted, halts]

/-- One cycle or more, up to the first failure, come to where as many steps lead, and look for a
fault there. Before that they only note instructions. -/
theorem cycles_succ (machine : Machine) (around : Surroundings) (count : Nat) :
    ∃ traced, Traced traced ∧ machine.cycles around (count + 1) =
      let checked :=
        (machine.arriveAt around.now (State.steps (count + 1) machine.state)).checkFault
      { checked with notes := traced ++ checked.notes } := by
  -- the induction carries the machine on, whose timers run from the first cycle
  induction count generalizing machine with
  | zero =>
    refine ⟨machine.preview, traced_preview machine, ?_⟩
    cases stopped : machine.state.step.error? with
    | some error =>
      rw [cycles, Outcome.andThen_of_error _ (by rw [cycle_of_stopped stopped]),
        cycle_of_stopped stopped, State.steps, State.steps, checkFault_of_stopped _ _ stopped]
    | none =>
      rw [cycles, Outcome.andThen_of_ok _ (by rw [cycle_of_running stopped]),
        cycle_of_running stopped, State.steps, State.steps, checkFault_of_running _ _ stopped]
      simp only [cycles, done, List.append_nil]
  | succ count ih =>
    cases stopped : machine.state.step.error? with
    | some error =>
      -- the first failure ends the cycles, and the state does not move after it
      refine ⟨machine.preview, traced_preview machine, ?_⟩
      rw [cycles, Outcome.andThen_of_error _ (by rw [cycle_of_stopped stopped]),
        cycle_of_stopped stopped, State.steps_succ, steps_of_error stopped,
        checkFault_of_stopped _ _ stopped]
    | none =>
      obtain ⟨traced, instructions, rest⟩ := ih (machine.arriveAt around.now machine.state.step)
      refine ⟨machine.preview ++ traced, (traced_preview machine).append instructions, ?_⟩
      rw [cycles, Outcome.andThen_of_ok _ (by rw [cycle_of_running stopped]),
        cycle_of_running stopped, rest]
      simp only [List.append_nil, List.append_assoc]
      rfl

/-! ## All at once -/

/-- **The fast path.** Any number of cycles, one or more, come out alike whether they are run at
once or one by one up to the first failure; also with a progress bar, if the bar can show their
number. A greater number is refused with a bar, and nothing changes. -/
theorem run_agrees_cycles {ω : Type} (machine : Machine) (around : Surroundings) {count : Int}
    (positive : 1 ≤ count) :
    (machine.run around count).Agrees (machine.cycles around count.toNat) ∧
    (count < 0x80000000 →
      (machine.runWithProgress (ω := ω) around count).Agrees
        (machine.cycles around count.toNat)) ∧
    (0x80000000 ≤ count →
      machine.runWithProgress (ω := ω) around count = ⟨machine, [], .error .overflow⟩) := by
  obtain ⟨cycles, number⟩ : ∃ cycles, count.toNat = cycles + 1 := ⟨count.toNat - 1, by omega⟩
  obtain ⟨traced, instructions, slowly⟩ := machine.cycles_succ around cycles
  have plain : (machine.run around count).Agrees (machine.cycles around count.toNat) := by
    rw [number, slowly, ← number]
    exact Outcome.agrees_traced _ instructions
  refine ⟨plain, fun small => ?_, fun large => ?_⟩
  · have countable : Progress.Countable count := ⟨by omega, small⟩
    obtain ⟨events, ran⟩ := State.runWithProgress_of_countable (ω := ω) machine.state countable
    have barred : machine.runWithProgress (ω := ω) around count =
        (machine.run around count).andThen fun next _ => ⟨next, [], .ok events⟩ := by
      simp only [runWithProgress, ran, run]
    rw [barred]
    exact (Outcome.agrees_andThen _ events).trans plain
  · have uncountable : ¬ Progress.Countable count := fun countable => absurd countable.2 (by omega)
    simp only [runWithProgress, State.runWithProgress_of_not_countable machine.state uncountable]

/-- A run of five cycles whose second one cannot be executed. -/
theorem run_agrees_cycles_past_fault :
    let logger : Logger := ⟨"Chip8", "INFO", false, false, false, 0⟩
    let machine := { create ⟨0, 0⟩ logger .absent with
      state := (State.fresh ⟨0, 0⟩).after [.loadProgram [0x60, 0x01, 0xFF, 0xFF]] }
    let around : Surroundings := ⟨0, fun _ => .error .notFound⟩
    (State.steps 2 machine.state).fault = some .unknownInstruction ∧ (1 : Int) ≤ 5 ∧
      (machine.run around 5).Agrees (machine.cycles around 5) ∧
      (machine.runWithProgress (ω := Unit) around 5).Agrees (machine.cycles around 5) := by
  intro logger machine around
  have stops : (State.steps 2 machine.state).fault = some .unknownInstruction := by decide +kernel
  have positive : (1 : Int) ≤ 5 := by decide
  obtain ⟨plain, barred, -⟩ := run_agrees_cycles (ω := Unit) machine around positive
  exact ⟨stops, by decide, plain, barred (by decide)⟩

/-- With a bar that cannot show the count, a machine that has stopped is told of the count, and one
cycle at a time of the fault. -/
theorem runWithProgress_disagrees_uncountable :
    let logger : Logger := ⟨"Chip8", "INFO", false, false, false, 0⟩
    let machine := { create ⟨0, 0⟩ logger .absent with
      state := (State.fresh ⟨0, 0⟩).halt .unknownInstruction }
    let around : Surroundings := ⟨0, fun _ => .error .notFound⟩
    (machine.runWithProgress (ω := Unit) around 0x80000000).result = .error .overflow ∧
      (machine.cycles around 0x80000000).result =
        .error (.machine (.ofFault .unknownInstruction 0x200 0)) ∧
      ¬ (machine.runWithProgress (ω := Unit) around 0x80000000).Agrees
        (machine.cycles around 0x80000000) := by
  intro logger machine around
  have refused : (machine.runWithProgress (ω := Unit) around 0x80000000).result =
      .error .overflow := by
    rw [runWithProgress, State.runWithProgress_of_not_countable _ (by decide)]
  have stopped : machine.state.error? = some (.ofFault .unknownInstruction 0x200 0) := rfl
  have failed : (machine.cycles around 0x80000000).result =
      .error (.machine (.ofFault .unknownInstruction 0x200 0)) := by
    obtain ⟨traced, -, slowly⟩ := machine.cycles_succ around 0x7FFFFFFF
    rw [steps_of_error stopped, checkFault_of_stopped _ _ stopped] at slowly
    exact congrArg Outcome.result slowly
  refine ⟨refused, failed, fun agrees => ?_⟩
  have same := agrees.result
  rw [refused, failed] at same
  simp [Except.map] at same

end Machine

end Chip8
