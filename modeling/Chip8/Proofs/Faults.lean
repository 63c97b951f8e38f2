import Chip8.Proofs.CycleCases
import Chip8.Proofs.StackContents

/-!
# When an instruction faults, and what it leaves

`State.Blocks` lists, by the digits of a word and the numbers that the instruction looks at, the
words that a state cannot execute. It is the whole list (`obstacle?_eq_some_iff`), a word on it
changes nothing but the fault and the executed word, and a word that is not leaves the fault alone.
`fault_exact` puts this together with what a cycle does when it executes nothing.
-/

namespace Chip8

/-! ## Words from digits -/

namespace State

/-- The two bytes at the program counter, the first one the higher. -/
theorem toNat_fetch (state : State) : state.fetch.toNat =
    0x100 * (state.memory.read state.pc.toNat).toNat
      + (state.memory.read (state.pc + 1).toNat).toNat := by
  have high := (state.memory.read state.pc.toNat).toNat_lt
  have low := (state.memory.read (state.pc + 1).toNat).toNat_lt
  have apart := Nat.shiftLeft_add_eq_or_of_lt low (state.memory.read state.pc.toNat).toNat
  simp only [fetch, UInt16.toNat_or, UInt16.toNat_shiftLeft, UInt8.toNat_toUInt16,
    UInt16.reduceToNat, Nat.reduceMod]
  rw [Nat.shiftLeft_eq] at apart ⊢
  rw [Nat.mod_eq_of_lt (by omega), ← apart]
  omega

/-! ## The words that cannot be executed -/

/-- A word cannot be executed, and the fault that this raises. The digits of the word are spelled
out: `nnn` the last three, and `x`, `y` and `n` one each. -/
inductive Blocks (state : State) (word : UInt16) : Fault → Prop
  | formless (none : ∀ form : Form, form.covers word = false) :
      Blocks state word .unknownInstruction
  | call (nnn : Fin 4096) (digits : word.toNat = 0x2000 + nnn)
      (full : 16 ≤ state.stack.pointer.toInt) : Blocks state word .stackOverflow
  | ret (digits : word.toNat = 0x00EE) (empty : state.stack.pointer.toInt ≤ 0) :
      Blocks state word .stackUnderflow
  | draw (x y n : Fin 16) (digits : word.toNat = 0xD000 + 0x100 * x + 0x10 * y + n)
      (past : 4096 < state.index.toNat + n) : Blocks state word .address
  | storeDecimal (x : Fin 16) (digits : word.toNat = 0xF033 + 0x100 * x)
      (past : 4096 < state.index.toNat + 3) : Blocks state word .address
  | storeRegisters (x : Fin 16) (digits : word.toNat = 0xF055 + 0x100 * x)
      (past : 4096 < state.index.toNat + x + 1) : Blocks state word .address
  | loadRegisters (x : Fin 16) (digits : word.toNat = 0xF065 + 0x100 * x)
      (past : 4096 < state.index.toNat + x + 1) : Blocks state word .address
  | skipPressed (x : Fin 16) (digits : word.toNat = 0xE09E + 0x100 * x)
      (noKey : 15 < state.registers.get x) : Blocks state word .keypad
  | skipReleased (x : Fin 16) (digits : word.toNat = 0xE0A1 + 0x100 * x)
      (noKey : 15 < state.registers.get x) : Blocks state word .keypad

variable {state : State} {word : UInt16} {fault : Fault}

theorem blocks_of_hazard {form : Form} (covering : form.covers word = true)
    (hazard : form.hazard? (Operands.ofWord word) state = some fault) :
    state.Blocks word fault := by
  have digits := (Form.covers_iff_toNat form word).mp covering
  have nnn := Operands.val_nnn_ofWord word
  have x := Operands.val_x_ofWord word
  have y := Operands.val_y_ofWord word
  have n := Operands.val_n_ofWord word
  cases form with
  | ret =>
    obtain ⟨empty, ⟨⟩⟩ := Option.ite_none_right_eq_some.mp hazard
    exact .ret digits ((CallStack.isEmpty_iff _).mp empty)
  | call =>
    obtain ⟨full, ⟨⟩⟩ := Option.ite_none_right_eq_some.mp hazard
    exact .call _ digits ((CallStack.isFull_iff _).mp full)
  | draw =>
    obtain ⟨past, ⟨⟩⟩ := Option.ite_none_right_eq_some.mp hazard
    refine .draw (Operands.ofWord word).x (Operands.ofWord word).y _ ?_ past
    simp only [Form.row, Form.free, UInt16.reduceToNat] at digits
    omega
  | skipPressed =>
    obtain ⟨noKey, ⟨⟩⟩ := Option.ite_none_right_eq_some.mp hazard
    exact .skipPressed _ digits noKey
  | skipReleased =>
    obtain ⟨noKey, ⟨⟩⟩ := Option.ite_none_right_eq_some.mp hazard
    exact .skipReleased _ digits noKey
  | storeDecimal =>
    obtain ⟨past, ⟨⟩⟩ := Option.ite_none_right_eq_some.mp hazard
    exact .storeDecimal _ digits past
  | storeRegisters =>
    obtain ⟨past, ⟨⟩⟩ := Option.ite_none_right_eq_some.mp hazard
    exact .storeRegisters _ digits past
  | loadRegisters =>
    obtain ⟨past, ⟨⟩⟩ := Option.ite_none_right_eq_some.mp hazard
    exact .loadRegisters _ digits past
  | _ => contradiction

/-- What a form other than a machine-code call makes of a word whose digits are given. -/
theorem obstacle?_of_digits (form : Form) (ordinary : form ≠ .machineCall)
    (digits : word.toNat = form.row.pattern.toNat + form.free (Operands.ofWord word)) :
    state.obstacle? word = form.hazard? (Operands.ofWord word) state := by
  have covering := (Form.covers_iff_toNat form word).mpr digits
  simp only [obstacle?, Form.ofWord?_of_covers ordinary covering]

theorem obstacle?_of_blocks (blocks : state.Blocks word fault) :
    state.obstacle? word = some fault := by
  have nnn := Operands.val_nnn_ofWord word
  have x := Operands.val_x_ofWord word
  have y := Operands.val_y_ofWord word
  have n := Operands.val_n_ofWord word
  cases blocks with
  | formless none => simp only [obstacle?, Form.ofWord?_eq_none_iff.mpr none]
  | call address digits full =>
    rw [obstacle?_of_digits .call (by decide) (by simp [Form.row, Form.free]; omega)]
    exact if_pos ((CallStack.isFull_iff _).mpr full)
  | ret digits empty =>
    rw [obstacle?_of_digits .ret (by decide) digits]
    exact if_pos ((CallStack.isEmpty_iff _).mpr empty)
  | draw left top height digits past =>
    rw [obstacle?_of_digits .draw (by decide) (by simp [Form.row, Form.free]; omega)]
    exact if_pos (by omega)
  | storeDecimal register digits past =>
    rw [obstacle?_of_digits .storeDecimal (by decide) (by simp [Form.row, Form.free]; omega)]
    exact if_pos past
  | storeRegisters last digits past =>
    rw [obstacle?_of_digits .storeRegisters (by decide) (by simp [Form.row, Form.free]; omega)]
    exact if_pos (by omega)
  | loadRegisters last digits past =>
    rw [obstacle?_of_digits .loadRegisters (by decide) (by simp [Form.row, Form.free]; omega)]
    exact if_pos (by omega)
  | skipPressed register digits noKey =>
    have same : (Operands.ofWord word).x = register := by omega
    rw [obstacle?_of_digits .skipPressed (by decide) (by simp [Form.row, Form.free]; omega)]
    exact if_pos (same ▸ noKey)
  | skipReleased register digits noKey =>
    have same : (Operands.ofWord word).x = register := by omega
    rw [obstacle?_of_digits .skipReleased (by decide) (by simp [Form.row, Form.free]; omega)]
    exact if_pos (same ▸ noKey)

theorem obstacle?_eq_some_iff : state.obstacle? word = some fault ↔ state.Blocks word fault := by
  constructor
  · intro obstacle
    cases found : Form.ofWord? word with
    | some form =>
      simp only [obstacle?, found] at obstacle
      exact blocks_of_hazard (Form.covers_of_ofWord? found) obstacle
    | none =>
      simp only [obstacle?, found, Option.some.injEq] at obstacle
      exact obstacle ▸ .formless (Form.ofWord?_eq_none_iff.mp found)
  · exact obstacle?_of_blocks

/-! ## Raising -/

/-- The fault that executing a word raises: what it leaves as fault of a machine that had none. -/
def raised? (state : State) (word : UInt16) : Option Fault :=
  ({ state with fault := none }.execute word).fault

theorem fault_execute_of_clear (clear : state.obstacle? word = none) :
    (state.execute word).fault = state.fault := by
  obtain ⟨form, found, safe⟩ := exists_form_of_clear clear
  rw [execute_of_form found safe, Form.fault_effect]

theorem raised?_eq_obstacle? (state : State) (word : UInt16) :
    state.raised? word = state.obstacle? word := by
  have unread : { state with fault := none }.obstacle? word = state.obstacle? word := by
    simp only [obstacle?, Form.hazard?_mark _ _ state state.opcode none]
  rw [raised?, ← unread]
  cases obstacle : { state with fault := none }.obstacle? word with
  | some fault => rw [execute_of_obstacle obstacle]
  | none => exact fault_execute_of_clear obstacle

/-- A machine that waits for a key raises no fault. -/
theorem fault_step_of_waiting (running : state.fault = none) (waits : state.waiting = true) :
    state.step.fault = none := by
  rw [step_of_waiting running waits, poll]
  split <;> exact running

/-- **Faults are exact and atomic.** Executing a word raises a fault just where `Blocks` says so;
then it changes nothing but the fault and the executed word, and otherwise it leaves the fault as it
was. A cycle of a machine that has stopped changes nothing, one of a machine that waits raises no
fault, one with the program counter past the last whole word changes only the fault, and any other
executes the two bytes at the program counter. -/
theorem fault_exact (state : State) (word : UInt16) :
    (∀ fault, state.raised? word = some fault ↔ state.Blocks word fault) ∧
    (∀ fault, state.raised? word = some fault →
      state.execute word = { state with opcode := word, fault := some fault }) ∧
    (state.raised? word = none → (state.execute word).fault = state.fault) ∧
    (state.fault ≠ none → state.step = state) ∧
    (state.fault = none → state.waiting = true → state.step.fault = none) ∧
    (state.fault = none → state.waiting = false → 0xFFE < state.pc →
      state.step = { state with fault := some .address }) ∧
    (state.fault = none → state.waiting = false → state.pc ≤ 0xFFE →
      state.step = state.execute state.fetch ∧
      state.fetch.toNat = 0x100 * (state.memory.read state.pc.toNat).toNat
        + (state.memory.read (state.pc.toNat + 1)).toNat) := by
  rw [raised?_eq_obstacle?]
  refine ⟨fun fault => obstacle?_eq_some_iff, fun fault => execute_of_obstacle,
    fault_execute_of_clear, ?_, fault_step_of_waiting, step_of_outside, ?_⟩
  · intro stopped
    exact step_of_halted (Option.isSome_iff_ne_none.mpr stopped)
  · intro running awake near
    have low : state.pc.toNat ≤ 0xFFE := UInt16.le_iff_toNat_le.mp near
    have second : (state.pc + 1).toNat = state.pc.toNat + 1 :=
      toNat_pc_add (by omega) (by decide)
    refine ⟨step_of_pendingWord? (pendingWord?_eq_fetch_iff.mpr ⟨running, awake, near⟩), ?_⟩
    rw [toNat_fetch, second]

end State

end Chip8
