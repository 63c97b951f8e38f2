import Chip8.Cycle
import Chip8.Proofs.Words

/-!
# What a cycle can do

A cycle ends in one of six ways, and `State.CycleCases` lists them once, each with the condition
under which it comes about and the state it leads to. Statements about all cycles go by cases on it
and never open `step`. Of an instruction that takes effect, they use the field lemmas of the first
section: what it makes of the program counter, the call stack and the wait for a key.
-/

namespace Chip8

namespace Form

/-! ## Fields after an instruction -/

/-- Where an instruction leads that takes effect. -/
def target (form : Form) (operands : Operands) (state : State) : UInt16 :=
  let vx := state.registers.get operands.x
  let vy := state.registers.get operands.y
  match form with
  | ret => state.stack.pop.2
  | jump | call => operands.address
  | jumpOffset => operands.address + (state.registers.get 0).toUInt16
  | awaitKey => state.pc
  | skipEqualByte => (state.skipIf (vx == operands.byte)).pc
  | skipUnequalByte => (state.skipIf (vx != operands.byte)).pc
  | skipEqual => (state.skipIf (vx == vy)).pc
  | skipUnequal => (state.skipIf (vx != vy)).pc
  | skipPressed => (state.skipIf (keyHeld state operands.x)).pc
  | skipReleased => (state.skipIf (!keyHeld state operands.x)).pc
  | _ => state.next.pc

variable (form : Form) (operands : Operands) (state : State)

theorem pc_effect : (form.effect operands state).pc = form.target operands state := by
  cases form <;> rfl

theorem stack_effect :
    (form.effect operands state).stack = match form with
      | ret => state.stack.pop.1
      | call => state.stack.push (state.pc + 2)
      | _ => state.stack := by
  cases form <;> rfl

theorem waiting_effect :
    (form.effect operands state).waiting = match form with
      | awaitKey => true
      | _ => state.waiting := by
  cases form <;> rfl

theorem keyRegister_effect :
    (form.effect operands state).keyRegister = match form with
      | awaitKey => UInt8.ofNat operands.x
      | _ => state.keyRegister := by
  cases form <;> rfl

theorem opcode_effect : (form.effect operands state).opcode = state.opcode := by
  cases form <;> rfl

theorem fault_effect : (form.effect operands state).fault = state.fault := by
  cases form <;> rfl

theorem reach?_of_inside {state : State} {count : Nat}
    (inside : state.index.toNat + count ≤ 4096) : reach? state count = none :=
  if_neg (Nat.not_lt.mpr inside)

/-- Neither the word that was executed nor an earlier fault stands in the way of an instruction. -/
theorem hazard?_mark (word : UInt16) (fault : Option Fault) :
    form.hazard? operands { state with opcode := word, fault } = form.hazard? operands state := by
  cases form <;> rfl

end Form

namespace State

/-! ## Executing a word -/

/-- Why a word cannot be executed, if so. -/
def obstacle? (state : State) (word : UInt16) : Option Fault :=
  match Form.ofWord? word with
  | some form => form.hazard? (Operands.ofWord word) state
  | none => some .unknownInstruction

variable {state : State} {word : UInt16} {fault : Fault}

theorem execute_of_obstacle (blocked : state.obstacle? word = some fault) :
    state.execute word = { state with opcode := word, fault := some fault } := by
  cases found : Form.ofWord? word with
  | some form =>
    have hazard :
        form.hazard? (Operands.ofWord word) { state with opcode := word } = some fault := by
      rw [Form.hazard?_mark form _ state word state.fault]
      simpa only [obstacle?, found] using blocked
    simp only [execute, found, Form.perform, hazard, halt]
  | none =>
    have unknown : Fault.unknownInstruction = fault := by
      simpa only [obstacle?, found, Option.some.injEq] using blocked
    simp only [execute, found, halt, unknown]

/-- A word of a form that may run takes effect. -/
theorem execute_of_form {form : Form} (found : Form.ofWord? word = some form)
    (safe : form.hazard? (Operands.ofWord word) state = none) :
    state.execute word = form.effect (Operands.ofWord word) { state with opcode := word } := by
  rw [← Form.hazard?_mark form _ state word state.fault] at safe
  simp only [execute, found, Form.perform, safe]

/-- What a word does whose digits are those of a form that may run. -/
theorem execute_of_digits (form : Form) (ordinary : form ≠ .machineCall)
    (digits : word.toNat = form.row.pattern.toNat + form.free (Operands.ofWord word))
    (safe : form.hazard? (Operands.ofWord word) state = none) :
    state.execute word = form.effect (Operands.ofWord word) { state with opcode := word } :=
  execute_of_form (Form.ofWord?_of_covers ordinary ((Form.covers_iff_toNat form word).mpr digits))
    safe

/-- A word that can be executed has a form that may run. -/
theorem exists_form_of_clear (clear : state.obstacle? word = none) :
    ∃ form, Form.ofWord? word = some form ∧ form.hazard? (Operands.ofWord word) state = none := by
  cases found : Form.ofWord? word with
  | some form =>
    simp only [obstacle?, found] at clear
    exact ⟨form, rfl, clear⟩
  | none => simp [obstacle?, found] at clear

/-! ## One cycle -/

/-- Up to `0x10FE` the program counter moves on without wrapping around. -/
theorem toNat_pc_add (low : state.pc.toNat ≤ 0x10FE) {distance : UInt16}
    (small : distance.toNat ≤ 4) :
    (state.pc + distance).toNat = state.pc.toNat + distance.toNat := by
  rw [UInt16.toNat_add]
  exact Nat.mod_eq_of_lt (by omega)

/-- The ways in which a cycle can end. -/
inductive CycleCases (state : State) : Prop
  /-- The machine had stopped. -/
  | stopped (halted : state.halted = true) (same : state.step = state)
  /-- A wait ends with a key. -/
  | pressed (key : Fin 16) (running : state.fault = none) (waits : state.waiting = true)
      (found : state.keypad.firstNewPress? state.latch = some key)
      (resolved : state.step = { state with
        registers := state.registers.setNumber state.keyRegister.toNat (UInt8.ofNat key)
        waiting := false
        pc := state.pc + 2 })
  /-- A wait goes on. -/
  | unpressed (running : state.fault = none) (waits : state.waiting = true)
      (none : state.keypad.firstNewPress? state.latch = none)
      (looked : state.step = { state with latch := state.keypad })
  /-- No whole word lies at the program counter. -/
  | outside (running : state.fault = none) (awake : state.waiting = false)
      (far : 0xFFE < state.pc) (halts : state.step = { state with fault := some .address })
  /-- The word at the program counter cannot be executed. -/
  | blocked (fault : Fault) (pending : state.pendingWord? = some state.fetch)
      (obstacle : state.obstacle? state.fetch = some fault)
      (halts : state.step = { state with opcode := state.fetch, fault := some fault })
  /-- The instruction at the program counter takes effect. -/
  | executed (form : Form) (pending : state.pendingWord? = some state.fetch)
      (found : Form.ofWord? state.fetch = some form)
      (safe : form.hazard? (Operands.ofWord state.fetch) state = none)
      (runs : state.step =
        form.effect (Operands.ofWord state.fetch) { state with opcode := state.fetch })

/-- A word is pending if the machine runs, does not wait, and has a word to fetch. -/
theorem pendingWord?_eq_fetch_iff : state.pendingWord? = some state.fetch ↔
    state.fault = none ∧ state.waiting = false ∧ state.pc ≤ 0xFFE := by
  simp [pendingWord?, halted, canFetch, and_assoc]

theorem step_of_waiting (running : state.fault = none) (waits : state.waiting = true) :
    state.step = state.poll := by
  simp [step, halted, running, waits]

theorem step_of_outside (running : state.fault = none) (awake : state.waiting = false)
    (far : 0xFFE < state.pc) : state.step = { state with fault := some .address } := by
  simp [step, halted, running, awake, fetchAndExecute, canFetch, UInt16.not_le.mpr far, halt]

theorem cycleCases (state : State) : state.CycleCases := by
  cases running : state.fault with
  | some fault =>
    have stops : state.halted = true := by simp [halted, running]
    exact .stopped stops (step_of_halted stops)
  | none =>
    cases waits : state.waiting with
    | true =>
      have polled := step_of_waiting running waits
      cases found : state.keypad.firstNewPress? state.latch with
      | some key =>
        exact .pressed key running waits found (by simp only [polled, poll, found, next, advance])
      | none => exact .unpressed running waits found (by simp only [polled, poll, found])
    | false =>
      by_cases near : state.pc ≤ 0xFFE
      · have pending := pendingWord?_eq_fetch_iff.mpr ⟨running, waits, near⟩
        have executes := step_of_pendingWord? pending
        cases obstacle : state.obstacle? state.fetch with
        | some fault =>
          exact .blocked fault pending obstacle (executes.trans (execute_of_obstacle obstacle))
        | none =>
          obtain ⟨form, found, safe⟩ := exists_form_of_clear obstacle
          exact .executed form pending found safe (executes.trans (execute_of_form found safe))
      · have far := UInt16.not_le.mp near
        exact .outside running waits far (step_of_outside running waits far)

end State

end Chip8
