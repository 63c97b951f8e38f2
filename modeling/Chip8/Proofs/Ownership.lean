import Chip8.Proofs.CycleCases
import Chip8.Proofs.Histories

/-!
# Who changes what

Each part of a state belongs to a few instructions: nothing else changes it. `State.Owned` lists the
parts with the words they belong to, by their digits, and `owned_execute` shows that executing a
word keeps to the list. Cycles inherit it: what no instruction owns, the keypad and the beep, stays
through any number of them, and a timer changes only in a cycle that executes the word that sets it
(`delayTimer_step` and `soundTimer_step`, through `executes_of_changed`). A machine that waits for
a key executes nothing and changes little (`waitTurn`). `field_ownership` puts this together.
-/

namespace Chip8

namespace Operands

/-- The last three digits are the first of them and the last two. -/
theorem val_nnn_eq (word : UInt16) :
    (ofWord word).nnn.val = 0x100 * (ofWord word).x + (ofWord word).nn :=
  (ofInt_digits word.toNat).2.1

end Operands

namespace Memory

/-- A run of bytes changes only the addresses it covers. -/
theorem covered_of_read_writeAll_ne {memory : Memory} {address other : Nat} {values : List UInt8}
    (inside : other < 4096)
    (changed : (memory.writeAll address values).read other ≠ memory.read other) :
    address ≤ other ∧ other < address + values.length :=
  Decidable.byContradiction fun apart =>
    changed (memory.read_writeAll_outside inside (by omega))

end Memory

namespace Form

/-- Combining two registers leaves the others alone but for the flag register. -/
theorem get_combine_of_ne (operation : Operation) (operands : Operands) (state : State)
    {register : Fin 16} (other : register ≠ operands.x) (notFlag : register ≠ Layout.flagRegister) :
    (combine operation operands state).registers.get register = state.registers.get register := by
  cases told : operation.flag? (state.registers.get operands.x)
    (state.registers.get operands.y) with
  | none =>
    simp only [combine, told, State.next, State.advance, State.setRegister, Registers.get_set,
      other.symm, if_false]
  | some value =>
    simp only [combine, told, State.next, State.advance, State.setRegister, Registers.get_set,
      other.symm, notFlag.symm, if_false]

/-- An operation that tells no flag leaves all registers alone but the first one. -/
theorem get_combine_of_plain {operation : Operation} (plain : ∀ a b, operation.flag? a b = none)
    (operands : Operands) (state : State) {register : Fin 16} (other : register ≠ operands.x) :
    (combine operation operands state).registers.get register = state.registers.get register := by
  simp only [combine, plain, State.next, State.advance, State.setRegister, Registers.get_set,
    other.symm, if_false]

end Form

/-! ## The list of owners -/

/-- A word may change a register: the one that its second digit names, the flag register besides
for an operation that tells a flag or a collision, or those up to its second digit. -/
inductive WritesRegister (word : UInt16) (register : Fin 16) : Prop
  | setByte (nn : Fin 256) (digits : word.toNat = 0x6000 + 0x100 * register + nn)
  | addByte (nn : Fin 256) (digits : word.toNat = 0x7000 + 0x100 * register + nn)
  | combine (y n : Fin 16) (digits : word.toNat = 0x8000 + 0x100 * register + 0x10 * y + n)
  | random (nn : Fin 256) (digits : word.toNat = 0xC000 + 0x100 * register + nn)
  | readDelay (digits : word.toNat = 0xF007 + 0x100 * register)
  | flag (isFlag : register = 0xF) (x y n : Fin 16)
      (digits : word.toNat = 0x8000 + 0x100 * x + 0x10 * y + n)
      (tells : n = 4 ∨ n = 5 ∨ n = 6 ∨ n = 7 ∨ n = 0xE)
  | collision (isFlag : register = 0xF) (nnn : Fin 4096) (digits : word.toNat = 0xD000 + nnn)
  | loadRegisters (x : Fin 16) (upTo : register ≤ x) (digits : word.toNat = 0xF065 + 0x100 * x)

namespace State

/-- Where two states differ, the word owns the difference. The program counter, the executed word
and the fault belong to every word. -/
structure Owned (word : UInt16) (before after : State) : Prop where
  memory : ∀ address < 4096, after.memory.read address ≠ before.memory.read address →
    before.index.toNat ≤ address ∧ ∃ x : Fin 16,
      word.toNat = 0xF033 + 0x100 * x ∧ address ≤ before.index.toNat + 2 ∨
      word.toNat = 0xF055 + 0x100 * x ∧ address ≤ before.index.toNat + x
  screen : after.screen ≠ before.screen ∨ after.dirty ≠ before.dirty →
    word.toNat = 0x00E0 ∨ ∃ nnn : Fin 4096, word.toNat = 0xD000 + nnn
  stack : after.stack ≠ before.stack →
    word.toNat = 0x00EE ∨ ∃ nnn : Fin 4096, word.toNat = 0x2000 + nnn
  delayTimer : after.delayTimer ≠ before.delayTimer → ∃ x : Fin 16, word.toNat = 0xF015 + 0x100 * x
  soundTimer : after.soundTimer ≠ before.soundTimer → ∃ x : Fin 16, word.toNat = 0xF018 + 0x100 * x
  index : after.index ≠ before.index →
    (∃ nnn : Fin 4096, word.toNat = 0xA000 + nnn) ∨
      ∃ x : Fin 16, word.toNat = 0xF01E + 0x100 * x ∨ word.toNat = 0xF029 + 0x100 * x
  random : after.random ≠ before.random → ∃ nnn : Fin 4096, word.toNat = 0xC000 + nnn
  wait : after.waiting ≠ before.waiting ∨ after.keyRegister ≠ before.keyRegister ∨
    after.latch ≠ before.latch → ∃ x : Fin 16, word.toNat = 0xF00A + 0x100 * x
  registers : ∀ register, after.registers.get register ≠ before.registers.get register →
    WritesRegister word register
  keypad : after.keypad = before.keypad
  beep : after.beep = before.beep

variable {state : State} {word : UInt16}

/-- A fault changes nothing that has an owner. -/
theorem owned_fault (state : State) (word : UInt16) (fault : Option Fault) :
    Owned word state { state with opcode := word, fault } where
  memory _ _ changed := absurd rfl changed
  screen changed := by simp at changed
  stack changed := absurd rfl changed
  delayTimer changed := absurd rfl changed
  soundTimer changed := absurd rfl changed
  index changed := absurd rfl changed
  random changed := absurd rfl changed
  wait changed := by simp at changed
  registers _ changed := absurd rfl changed
  keypad := rfl
  beep := rfl

/-- The memory that an instruction changes is what its store covers. -/
theorem memory_effect_owned {form : Form} (covering : form.covers word = true) {address : Nat}
    (inside : address < 4096)
    (changed : (form.effect (Operands.ofWord word) state).memory.read address ≠
      state.memory.read address) :
    state.index.toNat ≤ address ∧ ∃ x : Fin 16,
      word.toNat = 0xF033 + 0x100 * x ∧ address ≤ state.index.toNat + 2 ∨
      word.toNat = 0xF055 + 0x100 * x ∧ address ≤ state.index.toNat + x := by
  have digits := (Form.covers_iff_toNat form word).mp covering
  cases form with
  | storeDecimal =>
    obtain ⟨from_index, below⟩ := Memory.covered_of_read_writeAll_ne inside changed
    have three : (Form.decimalDigits
      (state.registers.get (Operands.ofWord word).x)).length = 3 := rfl
    exact ⟨from_index, _, .inl ⟨digits, by omega⟩⟩
  | storeRegisters =>
    obtain ⟨from_index, below⟩ := Memory.covered_of_read_writeAll_ne inside changed
    rw [Form.length_registersUpTo] at below
    exact ⟨from_index, _, .inr ⟨digits, by omega⟩⟩
  | _ => contradiction

/-- Combining two registers changes the first one, and the flag register where it tells a flag. -/
theorem registers_combine_owned {operation : Operation} {n : Fin 16}
    (digits : word.toNat = 0x8000 + n
      + (0x100 * (Operands.ofWord word).x + 0x10 * (Operands.ofWord word).y))
    (tells : (∀ a b, operation.flag? a b = none) ∨ n = 4 ∨ n = 5 ∨ n = 6 ∨ n = 7 ∨ n = 0xE)
    {register : Fin 16}
    (changed : (Form.combine operation (Operands.ofWord word) state).registers.get register ≠
      state.registers.get register) : WritesRegister word register := by
  by_cases first : register = (Operands.ofWord word).x
  · exact .combine (Operands.ofWord word).y n (by rw [first]; omega)
  · rcases tells with plain | tells
    · exact absurd (Form.get_combine_of_plain plain _ _ first) changed
    · by_cases isFlag : register = Layout.flagRegister
      · exact .flag isFlag (Operands.ofWord word).x (Operands.ofWord word).y n
          (by rw [digits]; omega) tells
      · exact absurd (Form.get_combine_of_ne _ _ _ first isFlag) changed

/-- Setting a register changes no other one. -/
theorem eq_of_get_set_ne {registers : Registers} {written register : Fin 16} {value : UInt8}
    (changed : (registers.set written value).get register ≠ registers.get register) :
    register = written := by
  refine Decidable.byContradiction fun apart => ?_
  exact changed (Registers.get_set_of_ne registers value apart)

/-- The registers that an instruction changes are those that its word names. -/
theorem registers_effect_owned {form : Form} (covering : form.covers word = true)
    {register : Fin 16}
    (changed : (form.effect (Operands.ofWord word) state).registers.get register ≠
      state.registers.get register) : WritesRegister word register := by
  have digits := (Form.covers_iff_toNat form word).mp covering
  have nn := Operands.val_nnn_eq word
  cases form with
  | setByte =>
    have first := eq_of_get_set_ne changed
    exact .setByte (Operands.ofWord word).nn
      (by rw [first, digits, Form.free, nn, ← Nat.add_assoc]; rfl)
  | addByte =>
    have first := eq_of_get_set_ne changed
    exact .addByte (Operands.ofWord word).nn
      (by rw [first, digits, Form.free, nn, ← Nat.add_assoc]; rfl)
  | random =>
    have first := eq_of_get_set_ne changed
    exact .random (Operands.ofWord word).nn
      (by rw [first, digits, Form.free, nn, ← Nat.add_assoc]; rfl)
  | readDelay => exact .readDelay (by rw [eq_of_get_set_ne changed]; exact digits)
  | draw => exact .collision (eq_of_get_set_ne changed) _ digits
  | move => exact registers_combine_owned (n := 0) digits (.inl fun _ _ => rfl) changed
  | bitOr => exact registers_combine_owned (n := 1) digits (.inl fun _ _ => rfl) changed
  | bitAnd => exact registers_combine_owned (n := 2) digits (.inl fun _ _ => rfl) changed
  | bitXor => exact registers_combine_owned (n := 3) digits (.inl fun _ _ => rfl) changed
  | add => exact registers_combine_owned (n := 4) digits (.inr (by decide)) changed
  | subtract => exact registers_combine_owned (n := 5) digits (.inr (by decide)) changed
  | shiftRight => exact registers_combine_owned (n := 6) digits (.inr (by decide)) changed
  | subtractFrom => exact registers_combine_owned (n := 7) digits (.inr (by decide)) changed
  | shiftLeft => exact registers_combine_owned (n := 0xE) digits (.inr (by decide)) changed
  | loadRegisters =>
    change (Registers.ofFn _).get register ≠ _ at changed
    rw [Registers.get_ofFn] at changed
    split at changed
    · next upTo => exact .loadRegisters _ upTo digits
    · exact absurd rfl changed
  | _ => contradiction

/-- An instruction that takes effect changes what its word owns. -/
theorem owned_effect {form : Form} (covering : form.covers word = true) :
    Owned word state (form.effect (Operands.ofWord word) { state with opcode := word }) := by
  have digits := (Form.covers_iff_toNat form word).mp covering
  refine ⟨fun address inside changed =>
      @memory_effect_owned { state with opcode := word } word form covering address inside changed,
    ?screen, ?stack, ?delayTimer, ?soundTimer, ?index, ?random, ?wait,
    fun register changed =>
      @registers_effect_owned { state with opcode := word } word form covering register changed,
    ?keypad, ?beep⟩
  case screen =>
    intro changed
    cases form with
    | clearScreen => exact .inl digits
    | draw => exact .inr ⟨_, digits⟩
    | _ => rcases changed with changed | changed <;> contradiction
  case stack =>
    intro changed
    cases form with
    | ret => exact .inl digits
    | call => exact .inr ⟨_, digits⟩
    | _ => contradiction
  case delayTimer =>
    intro changed
    cases form with
    | setDelay => exact ⟨_, digits⟩
    | _ => contradiction
  case soundTimer =>
    intro changed
    cases form with
    | setSound => exact ⟨_, digits⟩
    | _ => contradiction
  case index =>
    intro changed
    cases form with
    | setIndex => exact .inl ⟨_, digits⟩
    | addIndex => exact .inr ⟨_, .inl digits⟩
    | digitSprite => exact .inr ⟨_, .inr digits⟩
    | _ => contradiction
  case random =>
    intro changed
    cases form with
    | random => exact ⟨_, digits⟩
    | _ => contradiction
  case wait =>
    intro changed
    cases form with
    | awaitKey => exact ⟨_, digits⟩
    | _ => rcases changed with changed | changed | changed <;> contradiction
  case keypad => cases form <;> rfl
  case beep => cases form <;> rfl

theorem owned_execute (state : State) (word : UInt16) : Owned word state (state.execute word) := by
  cases obstacle : state.obstacle? word with
  | some fault =>
    rw [execute_of_obstacle obstacle]
    exact owned_fault state word (some fault)
  | none =>
    obtain ⟨form, found, safe⟩ := exists_form_of_clear obstacle
    rw [execute_of_form found safe]
    exact owned_effect (Form.covers_of_ofWord? found)

/-! ## Cycles -/

/-- A cycle of a machine that waits for a key changes which keys were held last at most, or ends the
wait with a register. -/
inductive WaitTurn (state : State) : Prop
  | goesOn (latch : Keypad) (same : state.step = { state with latch })
  | ends (registers : Registers) (pc : UInt16)
      (others : ∀ register : Fin 16, register.val ≠ state.keyRegister.toNat →
        registers.get register = state.registers.get register)
      (same : state.step = { state with registers, pc, waiting := false })

theorem waitTurn (waits : state.waiting = true) : state.WaitTurn := by
  cases state.cycleCases with
  | stopped _ same => exact .goesOn state.latch same
  | pressed key _ _ _ resolved =>
    exact .ends _ _ (fun _ other => Registers.get_setNumber_of_ne state.registers _ other) resolved
  | unpressed _ _ _ looked => exact .goesOn state.keypad looked
  | outside _ awake _ _ => simp [awake] at waits
  | blocked _ pending _ _ =>
    obtain ⟨-, awake, -⟩ := pendingWord?_eq_fetch_iff.mp pending
    simp [awake] at waits
  | executed _ pending _ _ _ =>
    obtain ⟨-, awake, -⟩ := pendingWord?_eq_fetch_iff.mp pending
    simp [awake] at waits

/-- A cycle executes the pending word, or leaves timers, keypad and beep alone. -/
theorem step_idle_or_execute (state : State) :
    (∃ registers waiting pc latch fault,
      state.step = { state with registers, waiting, pc, latch, fault }) ∨
    ∃ word, state.pendingWord? = some word ∧ state.step = state.execute word := by
  cases pending : state.pendingWord? with
  | some word => exact .inr ⟨word, rfl, step_of_pendingWord? pending⟩
  | none =>
    left
    cases state.cycleCases with
    | stopped _ same => exact ⟨_, _, _, _, _, same⟩
    | pressed _ _ _ _ resolved => exact ⟨_, _, _, _, _, resolved⟩
    | unpressed _ _ _ looked => exact ⟨_, _, _, _, _, looked⟩
    | outside _ _ _ halts => exact ⟨_, _, _, _, _, halts⟩
    | blocked _ reached _ _ => simp [pending] at reached
    | executed _ reached _ _ _ => simp [pending] at reached

theorem keypad_step (state : State) : state.step.keypad = state.keypad := by
  rcases state.step_idle_or_execute with ⟨_, _, _, _, _, idle⟩ | ⟨word, -, runs⟩
  · rw [idle]
  · rw [runs, (owned_execute state word).keypad]

theorem beep_step (state : State) : state.step.beep = state.beep := by
  rcases state.step_idle_or_execute with ⟨_, _, _, _, _, idle⟩ | ⟨word, -, runs⟩
  · rw [idle]
  · rw [runs, (owned_execute state word).beep]

theorem delayTimer_step (changed : state.step.delayTimer ≠ state.delayTimer) :
    ∃ word, state.pendingWord? = some word ∧ ∃ x : Fin 16, word.toNat = 0xF015 + 0x100 * x := by
  rcases state.step_idle_or_execute with ⟨_, _, _, _, _, idle⟩ | ⟨word, pending, runs⟩
  · exact absurd (congrArg State.delayTimer idle) changed
  · rw [runs] at changed
    exact ⟨word, pending, (owned_execute state word).delayTimer changed⟩

theorem soundTimer_step (changed : state.step.soundTimer ≠ state.soundTimer) :
    ∃ word, state.pendingWord? = some word ∧ ∃ x : Fin 16, word.toNat = 0xF018 + 0x100 * x := by
  rcases state.step_idle_or_execute with ⟨_, _, _, _, _, idle⟩ | ⟨word, pending, runs⟩
  · exact absurd (congrArg State.soundTimer idle) changed
  · rw [runs] at changed
    exact ⟨word, pending, (owned_execute state word).soundTimer changed⟩

/-- One of so many cycles executes a word of a kind. -/
def Executes (state : State) (count : Nat) (kind : UInt16 → Prop) : Prop :=
  ∃ cycle < count, ∃ word, (steps cycle state).pendingWord? = some word ∧ kind word

/-- What only a kind of word changes in a cycle, only such a word changes in any number of them. -/
theorem executes_of_changed {α : Type} {part : State → α} {kind : UInt16 → Prop}
    (once : ∀ state : State, part state.step ≠ part state →
      ∃ word, state.pendingWord? = some word ∧ kind word)
    {count : Nat} (changed : part (steps count state) ≠ part state) :
    state.Executes count kind := by
  induction count generalizing state with
  | zero => exact absurd rfl changed
  | succ count ih =>
    by_cases first : part state.step = part state
    · rw [steps_succ, ← first] at changed
      obtain ⟨cycle, inside, word, pending, shape⟩ := ih changed
      exact ⟨cycle + 1, Nat.succ_lt_succ inside, word, pending, shape⟩
    · obtain ⟨word, pending, shape⟩ := once state first
      exact ⟨0, Nat.succ_pos count, word, pending, shape⟩

/-- **Ownership.** Executing a word changes only what the word owns. A cycle of a machine that waits
for a key changes only what the keys held last were, or the register of the wait, the program
counter and the wait itself. No number of cycles changes the keypad or the beep, and a timer only
if one of them executes a word that sets it. -/
theorem field_ownership (state : State) (word : UInt16) :
    Owned word state (state.execute word) ∧
    (state.waiting = true → state.WaitTurn) ∧
    ∀ count : Int,
      (state.run count).keypad = state.keypad ∧
      (state.run count).beep = state.beep ∧
      ((state.run count).delayTimer ≠ state.delayTimer →
        state.Executes count.toNat fun word => ∃ x : Fin 16, word.toNat = 0xF015 + 0x100 * x) ∧
      ((state.run count).soundTimer ≠ state.soundTimer →
        state.Executes count.toNat fun word => ∃ x : Fin 16, word.toNat = 0xF018 + 0x100 * x) := by
  refine ⟨owned_execute state word, waitTurn, fun count => ⟨?_, ?_, ?_, ?_⟩⟩
  · exact @steps_preserves (fun later => later.keypad = state.keypad)
      (fun later same => later.keypad_step.trans same) count.toNat state rfl
  · exact @steps_preserves (fun later => later.beep = state.beep)
      (fun later same => later.beep_step.trans same) count.toNat state rfl
  · exact executes_of_changed fun _ => delayTimer_step
  · exact executes_of_changed fun _ => soundTimer_step

end State

end Chip8
