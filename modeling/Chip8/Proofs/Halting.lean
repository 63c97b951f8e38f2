import Chip8.Proofs.Operations

/-!
# Machines that have stopped

A machine that has stopped only changes as its host may change it: cycles do not move it, and all
that happens to it but a reset is the host's (`Session.hostChange_perform`). None of that touches
the fault, the program counter or the executed word, and an error is made of these. So every attempt
to run such a machine fails with the same error, until it is reset.
-/

namespace Chip8

namespace State

variable {state before after : State}

/-! ## States that do not move -/

/-- What a host changes is no part of the error. -/
theorem HostChange.error?_eq (change : before.HostChange after) : after.error? = before.error? := by
  obtain ⟨_, _, _, _, _, _, rfl⟩ := change
  rfl

theorem hostChange_takeFrame (state : State) : state.HostChange state.takeFrame.1 := by
  unfold takeFrame
  split
  · exact ⟨_, _, _, _, _, _, rfl⟩
  · exact .refl state

theorem error?_of_fault {fault : Fault} (halted : state.fault = some fault) :
    state.error? = some (.ofFault fault state.pc state.opcode) := by
  rw [error?, halted]
  rfl

/-- Cycles beyond those after which a machine has stopped lead no further. -/
theorem run_of_halted_steps {count : Nat} (halted : (steps count state).halted = true)
    {number : Int} (reached : count ≤ number) : state.run number = steps count state := by
  obtain ⟨further, total⟩ : ∃ further, number.toNat = count + further :=
    ⟨number.toNat - count, by omega⟩
  rw [run, total, steps_add, steps_of_halted halted]

end State

/-! ## Attempts to run -/

/-- Whether a happening looks for a fault after its cycles. A run looks even if it has no cycle to
run; cycles one by one look after each, so not if there is none; and a run with a bar does not come
to look if the bar cannot show its count. -/
def Happening.looksForFault : Happening → Bool
  | .cycles count => 0 < count
  | .run _ => true
  | .runWithProgress count => decide (Progress.Countable count)
  | _ => false

namespace Machine

variable {machine : Machine} {error : MachineError}

theorem run_of_stopped (around : Surroundings) (stopped : machine.state.error? = some error)
    (count : Int) :
    machine.run around count =
      ⟨machine.arriveAt around.now machine.state, [.stopped error], .error (.machine error)⟩ := by
  have still : machine.state.run count = machine.state := steps_of_error stopped count.toNat
  rw [run, still]
  exact checkFault_of_stopped machine around.now stopped

theorem result_cycles_of_stopped (around : Surroundings)
    (stopped : machine.state.error? = some error) {count : Nat} (some : 0 < count) :
    (machine.cycles around count).result = .error (.machine error) := by
  obtain ⟨more, rfl⟩ := Nat.exists_eq_add_one_of_ne_zero (Nat.ne_of_gt some)
  obtain ⟨traced, -, slowly⟩ := machine.cycles_succ around more
  rw [slowly, steps_of_error stopped, checkFault_of_stopped machine around.now stopped]

theorem result_runWithProgress_of_stopped {ω : Type} (around : Surroundings)
    (stopped : machine.state.error? = some error) {count : Int}
    (countable : Progress.Countable count) :
    (machine.runWithProgress (ω := ω) around count).result = .error (.machine error) := by
  obtain ⟨events, ran⟩ := State.runWithProgress_of_countable (ω := ω) machine.state countable
  have failed : (machine.run around count).result = .error (.machine error) := by
    rw [run_of_stopped around stopped]
  rw [run] at failed
  simp only [runWithProgress, ran]
  rw [Outcome.andThen_of_error _ failed]

end Machine

namespace Session

variable {session : Session} {happening : Happening}

/-- A machine that has stopped fails with its error when it is to run. -/
theorem result_perform_of_stopped {error : MachineError}
    (stopped : session.machine.state.error? = some error)
    (looks : happening.looksForFault = true) :
    (session.perform happening).result = .error (.machine error) := by
  cases happening with
  | cycles count =>
    have failed := Machine.result_cycles_of_stopped session.around stopped (of_decide_eq_true looks)
    simp only [perform, absorb, failed, Except.map]
  | run count =>
    simp only [perform, absorb, Machine.run_of_stopped session.around stopped, Except.map]
  | runWithProgress count =>
    have failed := Machine.result_runWithProgress_of_stopped (ω := Unit) session.around stopped
      (of_decide_eq_true looks)
    simp only [perform, absorb, failed, Except.map]
  | _ => contradiction

/-- Nothing but a reset changes more of a machine that has stopped than its host may change. -/
theorem hostChange_perform (halted : session.machine.state.halted = true)
    (goesOn : happening ≠ .reset) :
    session.machine.state.HostChange (session.perform happening).session.machine.state := by
  cases session.performCases happening with
  | cycles count ran =>
    rw [ran, State.steps_of_halted halted]
    exact .refl _
  | quiet change => exact change.hostChange
  | reset isReset _ => exact absurd isReset goesOn
  | takeFrame _ taken =>
    rw [taken]
    exact State.hostChange_takeFrame _

theorem hostChange_after {history : List Happening} (halted : session.machine.state.halted = true)
    (goesOn : .reset ∉ history) :
    session.machine.state.HostChange (session.after history).machine.state := by
  induction history generalizing session with
  | nil => exact .refl _
  | cons happening rest ih =>
    have first : happening ≠ .reset := fun same => goesOn (same ▸ List.mem_cons_self)
    have change := hostChange_perform halted first
    have still : (session.perform happening).session.machine.state.halted = true := by
      obtain ⟨_, _, _, _, _, _, same⟩ := change
      rw [same]
      exact halted
    exact change.trans (ih still fun later => goesOn (List.mem_cons_of_mem _ later))

/-- **Stopped for good.** After any history without a reset, whatever happens next to a machine that
had stopped, except a reset: it is left as it was but for memory, timers, the beep, the keypad and
the mark of a changed screen; and if it is to run, however many cycles, it fails with the error that
it had at first. As for the state itself: once cycles have stopped it, no number of further cycles
moves it. -/
theorem halted_for_good :
    (∀ (session : Session) (fault : Fault) (history : List Happening) (happening : Happening),
      session.machine.state.fault = some fault → .reset ∉ history → happening ≠ .reset →
      let state := session.machine.state
      let reply := (session.after history).perform happening
      state.HostChange reply.session.machine.state ∧
        (happening.looksForFault = true →
          reply.result = .error (.machine (.ofFault fault state.pc state.opcode)))) ∧
    ∀ (state : State) (count : Nat), (State.steps count state).halted = true →
      ∀ number : Int, count ≤ number → state.run number = State.steps count state := by
  refine ⟨fun session fault history happening halted goesOn other => ?_,
    fun state count halted number reached => State.run_of_halted_steps halted reached⟩
  intro state reply
  have stopped : state.error? = some (.ofFault fault state.pc state.opcode) :=
    State.error?_of_fault halted
  have change : state.HostChange (session.after history).machine.state :=
    hostChange_after (by simp [State.halted, halted]) goesOn
  have still : (session.after history).machine.state.error? =
      some (.ofFault fault state.pc state.opcode) := change.error?_eq.trans stopped
  have halts : (session.after history).machine.state.halted = true := by
    obtain ⟨_, _, _, _, _, _, same⟩ := change
    rw [same, State.halted, halted]
    rfl
  exact ⟨change.trans (hostChange_perform halts other), result_perform_of_stopped still⟩

/-- A program returns without a call. The machine is given another program and runs on, and the
error is still that of the return. -/
theorem halted_for_good_after_return :
    let logger : Logger := ⟨"Chip8", "INFO", false, false, false, 0⟩
    let session := Session.after ⟨.create ⟨0, 0⟩ logger .absent, 0, Files.empty⟩
      [.load (.bytes [0x00, 0xEE]), .cycles 3]
    let history : List Happening := [.run (-1), .load (.bytes [0x12, 0x00]), .tick, .takeFrame]
    session.machine.state.fault = some .stackUnderflow ∧
      ((session.after history).perform (.cycles 2)).result =
        .error (.machine (.ofFault .stackUnderflow 0x200 0x00EE)) ∧
      session.machine.state.run 5 = State.steps 0 session.machine.state := by
  intro logger session history
  obtain ⟨halted, pc, opcode⟩ : session.machine.state.fault = some .stackUnderflow ∧
      session.machine.state.pc = 0x200 ∧ session.machine.state.opcode = 0x00EE := by decide +kernel
  obtain ⟨stays, still⟩ := halted_for_good
  have goesOn : Happening.reset ∉ history := by simp [history]
  have failed := (stays session .stackUnderflow history (.cycles 2) halted goesOn nofun).2 rfl
  rw [pc, opcode] at failed
  refine ⟨halted, failed, still session.machine.state 0 ?_ 5 (by decide)⟩
  rw [State.steps, State.halted, halted]
  rfl

end Session

end Chip8
