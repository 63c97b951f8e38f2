import Chip8.Proofs.Faults
import Chip8.Proofs.Operations

/-!
# What an error tells of its instruction

Cycles are run at once or one by one, and a machine looks for a fault when they are over; the error
is made of what the state holds then. A machine that has stopped does not move, so this is what the
first cycle with a fault has left (`State.exists_faulting_cycle`): the program counter that it
found, and the word that was executed last (`State.opcode_steps`). If the cycle fetched a word, it
is that one. Past the last whole word nothing is fetched, and the error names the word before.
-/

namespace Chip8

namespace State

variable {state : State} {fault : Fault}

/-! ## The word executed last -/

/-- A cycle records the word that it executes, and else leaves the recorded word alone. -/
theorem opcode_step (state : State) : state.step.opcode = state.pendingWord?.getD state.opcode := by
  cases state.cycleCases with
  | stopped halted same => simp [same, pendingWord?, halted]
  | pressed _ _ waits _ resolved => simp [resolved, pendingWord?, waits]
  | unpressed _ waits _ looked => simp [looked, pendingWord?, waits]
  | outside _ _ far halts => simp [halts, pendingWord?, canFetch, UInt16.not_le.mpr far]
  | blocked _ pending _ halts => rw [halts, pending, Option.getD_some]
  | executed form pending _ _ runs => rw [runs, Form.opcode_effect, pending, Option.getD_some]

/-- After any number of cycles the recorded word is the last one that they executed, or that of
before if they executed none. -/
theorem opcode_steps (state : State) (count : Nat) :
    (steps count state).opcode = (state.executedWords count).getLast?.getD state.opcode := by
  induction count with
  | zero => rfl
  | succ count ih =>
    rw [steps_succ_last, opcode_step, executedWords_succ, List.getLast?_append, ih]
    cases (steps count state).pendingWord? <;> rfl

/-! ## The cycle that faults -/

/-- If a machine stops within so many cycles, one of them is the first to leave a fault, and the
cycles after it lead no further. -/
theorem exists_faulting_cycle (running : state.fault = none) {count : Nat}
    (stopped : (steps count state).fault ≠ none) :
    ∃ cycle < count, (steps cycle state).fault = none ∧
      steps count state = steps (cycle + 1) state := by
  induction count with
  | zero => exact absurd running stopped
  | succ count ih =>
    rcases Classical.em ((steps count state).fault = none) with still | earlier
    · exact ⟨count, Nat.lt_succ_self count, still, rfl⟩
    · obtain ⟨cycle, before, runs, same⟩ := ih earlier
      have halts : (steps count state).halted = true := Option.isSome_iff_ne_none.mpr earlier
      refine ⟨cycle, Nat.lt_succ_of_lt before, runs, ?_⟩
      rw [steps_succ_last, step_of_halted halts, same]

/-- A cycle that leaves a fault leaves the program counter and the memory as it found them. If a
whole word lies there, it records that word; else it records none. -/
theorem step_of_faulting (running : state.fault = none) (stops : state.step.fault = some fault) :
    (state.pc ≤ 0xFFE → state.step = { state with opcode := state.fetch, fault := some fault }) ∧
    (0xFFE < state.pc → fault = .address ∧ state.step = { state with fault := some .address }) := by
  cases state.cycleCases with
  | stopped halted _ => simp [State.halted, running] at halted
  | pressed _ _ _ _ resolved => simp [resolved, running] at stops
  | unpressed _ _ _ looked => simp [looked, running] at stops
  | outside _ _ far halts =>
    rw [halts] at stops
    obtain rfl := Option.some.inj stops
    exact ⟨fun near => absurd far (UInt16.not_lt.mpr near), fun _ => ⟨rfl, halts⟩⟩
  | blocked other pending _ halts =>
    obtain ⟨-, -, near⟩ := pendingWord?_eq_fetch_iff.mp pending
    rw [halts] at stops
    obtain rfl := Option.some.inj stops
    exact ⟨fun _ => halts, fun far => absurd far (UInt16.not_lt.mpr near)⟩
  | executed form _ _ _ runs =>
    rw [runs, Form.fault_effect, running] at stops
    contradiction

/-- Where a whole word lies, it is fetched from there. -/
theorem toNat_fetch_of_le (near : state.pc ≤ 0xFFE) : state.fetch.toNat =
    0x100 * (state.memory.read state.pc.toNat).toNat
      + (state.memory.read (state.pc.toNat + 1)).toNat := by
  have low : state.pc.toNat ≤ 0xFFE := UInt16.le_iff_toNat_le.mp near
  have second : (state.pc + 1).toNat = state.pc.toNat + 1 := toNat_pc_add (by omega) (by decide)
  rw [toNat_fetch, second]

end State

theorem MachineError.pc_ofFault (fault : Fault) (pc opcode : UInt16) :
    (ofFault fault pc opcode).pc = some (pc.toNat : Int) := by
  cases fault <;> rfl

theorem MachineError.opcode_ofFault (fault : Fault) (pc opcode : UInt16) :
    (ofFault fault pc opcode).opcode = some (opcode.toNat : Int) := by
  cases fault <;> rfl

namespace State

/-- The error of a fault that a cycle leaves, numbered from zero: the state that the cycle finds is
running, the one that it leaves has the error, and the error gives the program counter that it
finds. Up to the last whole word it gives the two bytes there, as they are left, as its word; past
it, it is an access out of range, and its word is the last one that was executed before. -/
structure FaultsAt (state : State) (cycle : Nat) (error : MachineError) : Prop where
  running : (steps cycle state).fault = none
  stopped : (steps (cycle + 1) state).error? = some error
  pc : error.pc = some ((steps cycle state).pc.toNat : Int)
  opcode_of_le : ∀ address : Nat, error.pc = some (address : Int) → address ≤ 0xFFE →
    error.opcode = some (0x100 * ((steps (cycle + 1) state).memory.read address).toNat
      + ((steps (cycle + 1) state).memory.read (address + 1)).toNat : Int)
  past_end : 0xFFE < (steps cycle state).pc →
    error = .ofFault .address (steps cycle state).pc
      ((state.executedWords cycle).getLast?.getD state.opcode)

/-- A cycle that takes a running state to one with an error faults with that error. -/
theorem faultsAt_of_error? {state : State} {cycle : Nat} {error : MachineError}
    (running : (steps cycle state).fault = none)
    (stopped : (steps (cycle + 1) state).error? = some error) : state.FaultsAt cycle error := by
  obtain ⟨fault, left, given⟩ := Option.map_eq_some_iff.mp stopped
  rw [steps_succ_last] at left given
  obtain ⟨inside, outside⟩ := step_of_faulting running left
  have pc : error.pc = some ((steps cycle state).pc.toNat : Int) := by
    rw [← given, MachineError.pc_ofFault]
    rcases Nat.lt_or_ge 0xFFE (steps cycle state).pc.toNat with far | near
    · rw [(outside (UInt16.lt_iff_toNat_lt.mpr far)).2]
    · rw [inside (UInt16.le_iff_toNat_le.mpr near)]
  refine ⟨running, stopped, pc, ?_, ?_⟩
  · intro address here near
    rw [pc] at here
    have same : (steps cycle state).pc.toNat = address := by exact_mod_cast Option.some.inj here
    have low : (steps cycle state).pc ≤ 0xFFE := UInt16.le_iff_toNat_le.mpr (same ▸ near)
    have fetched := toNat_fetch_of_le low
    rw [same] at fetched
    rw [← given, MachineError.opcode_ofFault, steps_succ_last, inside low]
    simp [fetched]
  · intro far
    obtain ⟨rfl, stayed⟩ := outside far
    rw [← given, stayed, opcode_steps]

/-- One of so many cycles faults with an error, and leaves a state. -/
def FaultsWithin (state : State) (count : Nat) (left : State) (error : MachineError) : Prop :=
  ∃ cycle < count, left = steps (cycle + 1) state ∧ state.FaultsAt cycle error

/-- A running machine has an error after so many cycles just if one of them faults with it. -/
theorem error?_steps_iff {state : State} (running : state.fault = none) {count : Nat}
    {error : MachineError} : (steps count state).error? = some error ↔
      state.FaultsWithin count (steps count state) error := by
  constructor
  · intro stopped
    have halts : (steps count state).fault ≠ none := by
      intro runs
      simp [error?, runs] at stopped
    obtain ⟨cycle, before, runs, same⟩ := exists_faulting_cycle running halts
    exact ⟨cycle, before, same, faultsAt_of_error? runs (same ▸ stopped)⟩
  · rintro ⟨cycle, -, same, faults⟩
    rw [same, faults.stopped]

end State

namespace Machine

variable {machine : Machine} {error : MachineError}

/-! ## The error of a run -/

theorem result_checkFault_iff :
    machine.checkFault.result = .error (.machine error) ↔ machine.state.error? = some error := by
  unfold checkFault
  split
  · next running => simp [running, done]
  · next stopped => simp [stopped]

theorem result_run_iff (around : Surroundings) (count : Int) :
    (machine.run around count).result = .error (.machine error) ↔
      (machine.state.run count).error? = some error :=
  result_checkFault_iff

theorem result_cycles_iff (around : Surroundings) (running : machine.state.fault = none)
    (count : Nat) : (machine.cycles around count).result = .error (.machine error) ↔
      (State.steps count machine.state).error? = some error := by
  cases count with
  | zero => simp [cycles, done, State.steps, State.error?, running]
  | succ count =>
    obtain ⟨traced, -, slowly⟩ := machine.cycles_succ around count
    rw [slowly]
    exact result_checkFault_iff

theorem state_runWithProgress_of_countable {ω : Type} (around : Surroundings) {count : Int}
    (countable : Progress.Countable count) :
    (machine.runWithProgress (ω := ω) around count).machine.state = machine.state.run count := by
  obtain ⟨events, barred⟩ := machine.runWithProgress_of_countable (ω := ω) around countable
  have ran := machine.state_run around count
  rw [barred]
  exact Outcome.machine_andThen (fun after => after.state = machine.state.run count) ran
    fun _ => ran

theorem state_cycle (around : Surroundings) :
    (machine.cycle around).machine.state = machine.state.step :=
  congrArg Machine.state
    (machine_checkFault (machine.arriveAt around.now machine.state.step))

theorem result_runWithProgress_iff {ω : Type} (around : Surroundings) (count : Int) :
    (machine.runWithProgress (ω := ω) around count).result = .error (.machine error) ↔
      Progress.Countable count ∧ (machine.state.run count).error? = some error := by
  rw [← result_run_iff around]
  by_cases countable : Progress.Countable count
  · obtain ⟨events, barred⟩ := machine.runWithProgress_of_countable (ω := ω) around countable
    rw [barred]
    cases ran : (machine.run around count).result with
    | ok => simp [Outcome.andThen_of_ok _ ran]
    | error => simp [Outcome.andThen_of_error _ ran, countable]
  · simp [runWithProgress, countable,
      State.runWithProgress_of_not_countable machine.state countable]

theorem result_cycle_iff (around : Surroundings) :
    (machine.cycle around).result = .error (.machine error) ↔
      machine.state.step.error? = some error :=
  result_checkFault_iff

/-- **What an error tells.** A running machine that is to run cycles, at once, one by one or with a
bar that can show their number, fails with an error of the machine just if one of the cycles faults
with it, and that cycle leaves the state. The error gives the program counter that the cycle found;
up to the last whole word also the two bytes there, and past it, where nothing is fetched, the word
that was executed last before. -/
theorem fault_errors_exact {ω : Type} (machine : Machine) (around : Surroundings)
    (running : machine.state.fault = none) (error : MachineError) :
    (∀ count : Int, (machine.run around count).result = .error (.machine error) ↔
      machine.state.FaultsWithin count.toNat (machine.run around count).machine.state error) ∧
    (∀ count : Int,
      (machine.runWithProgress (ω := ω) around count).result = .error (.machine error) ↔
        Progress.Countable count ∧ machine.state.FaultsWithin count.toNat
          (machine.runWithProgress (ω := ω) around count).machine.state error) ∧
    (∀ count : Nat, (machine.cycles around count).result = .error (.machine error) ↔
      machine.state.FaultsWithin count (machine.cycles around count).machine.state error) ∧
    ((machine.cycle around).result = .error (.machine error) ↔
      machine.state.FaultsWithin 1 (machine.cycle around).machine.state error) := by
  refine ⟨fun count => ?_, fun count => ?_, fun count => ?_, ?_⟩
  · rw [result_run_iff, machine.state_run, State.run, State.error?_steps_iff running]
  · rw [result_runWithProgress_iff, State.run, State.error?_steps_iff running]
    refine and_congr_right fun countable => ?_
    rw [state_runWithProgress_of_countable around countable, State.run]
  · rw [result_cycles_iff around running, machine.state_cycles, State.error?_steps_iff running]
  · have once : State.steps 1 machine.state = machine.state.step := rfl
    rw [result_cycle_iff, state_cycle, ← once, State.error?_steps_iff running]

/-- Five cycles are run, and the second finds a word that is no instruction. -/
theorem fault_errors_exact_of_unknown_word :
    let logger : Logger := ⟨"Chip8", "INFO", false, false, false, 0⟩
    let machine := { create ⟨0, 0⟩ logger .absent with
      state := (State.fresh ⟨0, 0⟩).after [.loadProgram [0x60, 0x01, 0x51, 0x21]] }
    let around : Surroundings := ⟨0, fun _ => .error .notFound⟩
    let error := MachineError.ofFault .unknownInstruction 0x202 0x5121
    machine.state.fault = none ∧ (machine.run around 5).result = .error (.machine error) ∧
      machine.state.FaultsWithin 5 (machine.run around 5).machine.state error := by
  intro logger machine around error
  have running : machine.state.fault = none := by decide +kernel
  have failed : (machine.run around 5).result = .error (.machine error) :=
    (result_run_iff around 5).mpr (by decide +kernel)
  obtain ⟨atOnce, -⟩ := fault_errors_exact (ω := Unit) machine around running error
  exact ⟨running, failed, (atOnce 5).mp failed⟩

/-- A program jumps to the last byte of memory. The cycle after finds no whole word there, and the
error names the jump. -/
theorem error_names_jump_past_end :
    let logger : Logger := ⟨"Chip8", "INFO", false, false, false, 0⟩
    let machine := { create ⟨0, 0⟩ logger .absent with
      state := (State.fresh ⟨0, 0⟩).after [.loadProgram [0x1F, 0xFF]] }
    let around : Surroundings := ⟨0, fun _ => .error .notFound⟩
    let error := MachineError.ofFault .address 0xFFF 0x1FFF
    machine.state.fault = none ∧ (State.steps 1 machine.state).fault = none ∧
      0xFFE < (State.steps 1 machine.state).pc ∧
      (machine.run around 2).result = .error (.machine error) ∧ error.opcode = some 0x1FFF ∧
      error.message = "Memory access out of range (opcode 0x1FFF at 0xFFF)" := by
  intro logger machine around error
  have found : (State.steps 1 machine.state).fault = none ∧
      0xFFE < (State.steps 1 machine.state).pc := by decide +kernel
  have failed : (machine.run around 2).result = .error (.machine error) :=
    (result_run_iff around 2).mpr (by decide +kernel)
  exact ⟨by decide +kernel, found.1, found.2, failed, rfl, rfl⟩

end Machine

end Chip8
