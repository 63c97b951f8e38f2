import Chip8.Proofs.Faults
import Chip8.Proofs.Histories

/-!
# States that a machine can get into

`State.Sound` is the invariant of all states between fresh ones and the end of any history of
ordinary requests. Its parts carry each other: the program counter stays low because return
addresses do, these because a call is only fetched at `0xFFE` or below, and a wait keeps the program
counter there because nothing but its own end moves it. `sound_step` shows that a cycle keeps it,
by cases on what a cycle can do, and `reachable_sound` says what it means for slots and sums.
-/

namespace Chip8

/-! ## Sums of program counters -/

namespace Operands

theorem toNat_address (operands : Operands) : operands.address.toNat = operands.nnn := by
  have bound := operands.nnn.isLt
  simp only [address, UInt16.toNat_ofNat']
  omega

/-- The target of a jump with an offset stays below 65536. -/
theorem toNat_address_add (operands : Operands) (offset : UInt8) :
    (operands.address + offset.toUInt16).toNat = operands.nnn + offset.toNat := by
  have bound := operands.nnn.isLt
  have small := offset.toNat_lt
  rw [UInt16.toNat_add, toNat_address, UInt8.toNat_toUInt16]
  omega

end Operands

namespace State

variable {state : State}

theorem toNat_pc_next (low : state.pc.toNat ≤ 0x10FE) :
    state.next.pc.toNat = state.pc.toNat + 2 :=
  toNat_pc_add low (by decide)

theorem toNat_pc_skipIf (low : state.pc.toNat ≤ 0x10FE) (condition : Bool) :
    (state.skipIf condition).pc.toNat = state.pc.toNat + if condition then 4 else 2 := by
  cases condition with
  | false => exact toNat_pc_add low (by decide)
  | true => exact toNat_pc_add low (by decide)

theorem toNat_pc_skipIf_le (low : state.pc.toNat ≤ 0xFFE) (condition : Bool) :
    (state.skipIf condition).pc.toNat ≤ 0x10FE := by
  rw [toNat_pc_skipIf (by omega)]
  split <;> omega

/-- No sum that a cycle forms of a program counter wraps around: not the address of the second byte
of a word, nor that of the next instruction, nor that of the one behind it, nor the return address
that a call stores, nor the target of a jump with an offset. -/
structure SumsFit (state : State) : Prop where
  secondByte : (state.pc + 1).toNat = state.pc.toNat + 1
  next : state.next.pc.toNat = state.pc.toNat + 2
  skipIf (condition : Bool) :
    (state.skipIf condition).pc.toNat = state.pc.toNat + if condition then 4 else 2
  returnAddress (operands : Operands) : ∃ address,
    (Form.call.effect operands state).stack = state.stack.push address ∧
      address.toNat = state.pc.toNat + 2
  jumpOffset (operands : Operands) :
    (Form.jumpOffset.effect operands state).pc.toNat
      = operands.nnn + (state.registers.get 0).toNat

theorem sumsFit_of_le (low : state.pc.toNat ≤ 0x10FE) : state.SumsFit where
  secondByte := toNat_pc_add low (by decide)
  next := toNat_pc_next low
  skipIf := toNat_pc_skipIf low
  returnAddress _ := ⟨state.pc + 2, rfl, toNat_pc_next low⟩
  jumpOffset operands := operands.toNat_address_add _

end State

/-- An instruction below the end of memory leads to an address of which no sum wraps, if a return
finds such an address. -/
theorem Form.toNat_target_le (form : Form) (operands : Operands) {state : State}
    (near : state.pc.toNat ≤ 0xFFE)
    (returns : form = .ret → state.stack.pop.2.toNat ≤ 0x1000) :
    (form.target operands state).toNat ≤ 0x10FE := by
  have nnn := operands.nnn.isLt
  have offset := (state.registers.get 0).toNat_lt
  have nextPc := state.toNat_pc_next (by omega)
  cases form with
  | ret => exact Nat.le_trans (returns rfl) (by decide)
  | jump | call =>
    simp only [target, operands.toNat_address]
    omega
  | jumpOffset =>
    simp only [target, operands.toNat_address_add]
    omega
  | awaitKey => exact Nat.le_trans near (by decide)
  | skipEqualByte | skipUnequalByte | skipEqual | skipUnequal | skipPressed | skipReleased =>
    exact State.toNat_pc_skipIf_le near _
  | _ =>
    simp only [target]
    omega

namespace State

/-! ## The invariant -/

/-- What holds of every state that a machine can get into. -/
structure Sound (state : State) : Prop where
  /-- The stack holds addresses behind instructions, and zeros above them. -/
  stack : ∃ addresses, state.stack.Holds addresses ∧
    ∀ address ∈ addresses, 2 ≤ address.toNat ∧ address.toNat ≤ 0x1000
  pc_le : state.pc.toNat ≤ 0x10FE
  code_le : Fault.codeOf state.fault ≤ 5
  keyRegister_le : state.keyRegister ≤ 15
  /-- A machine waits at the instruction that made it wait. -/
  waits : state.waiting = true → state.fault = none ∧ state.pc.toNat ≤ 0xFFE ∧
    state.opcode.toNat = 0xF00A + 256 * state.keyRegister.toNat

theorem sound_fresh (random : Random.Pair) : (fresh random).Sound where
  stack := ⟨[], CallStack.holds_empty, by simp⟩
  pc_le := by simp [fresh]
  code_le := by simp [fresh, Fault.codeOf]
  keyRegister_le := by simp [fresh]
  waits := by simp [fresh]

/-- The invariant says nothing about what a host may change. -/
theorem sound_hostChange (before after : State) (change : before.HostChange after)
    (sound : before.Sound) : after.Sound := by
  obtain ⟨memory, delayTimer, soundTimer, beep, keypad, dirty, rfl⟩ := change
  exact ⟨sound.stack, sound.pc_le, sound.code_le, sound.keyRegister_le, sound.waits⟩

variable {state : State}

/-- The faults that an instruction raises are those with a meaning. -/
theorem code_le_of_obstacle {word : UInt16} {fault : Fault}
    (obstacle : state.obstacle? word = some fault) : fault.code ≤ 5 := by
  cases obstacle?_eq_some_iff.mp obstacle <;> decide

/-- An instruction that takes effect keeps the stack in order. -/
theorem stack_effect_sound {form : Form} {operands : Operands} (sound : state.Sound)
    (near : state.pc.toNat ≤ 0xFFE) (safe : form.hazard? operands state = none) :
    ∃ addresses, (form.effect operands state).stack.Holds addresses ∧
      ∀ address ∈ addresses, 2 ≤ address.toNat ∧ address.toNat ≤ 0x1000 := by
  obtain ⟨addresses, holds, bounded⟩ := sound.stack
  rw [Form.stack_effect]
  split
  · have filled : state.stack.isEmpty = false := by simpa [Form.hazard?] using safe
    obtain ⟨older, last, rfl⟩ := holds.exists_last filled
    exact ⟨older, holds.pop.1, fun address among => bounded address (by simp [among])⟩
  · have free : ¬ state.stack.isFull = true := by simpa [Form.hazard?] using safe
    rw [holds.isFull_iff] at free
    have length := holds.length_le
    have stored := toNat_pc_next sound.pc_le
    refine ⟨addresses ++ [state.pc + 2], holds.push (by omega) _, fun address among => ?_⟩
    rcases List.mem_append.mp among with older | new
    · exact bounded address older
    · rw [List.mem_singleton.mp new]
      change 2 ≤ state.next.pc.toNat ∧ state.next.pc.toNat ≤ 0x1000
      omega
  · exact ⟨addresses, holds, bounded⟩

/-- A return that takes effect finds an address that a call has stored. -/
theorem toNat_pop_le (sound : state.Sound) {form : Form} {operands : Operands}
    (safe : form.hazard? operands state = none) (returns : form = .ret) :
    state.stack.pop.2.toNat ≤ 0x1000 := by
  obtain ⟨addresses, holds, bounded⟩ := sound.stack
  subst returns
  have filled : state.stack.isEmpty = false := by simpa [Form.hazard?] using safe
  obtain ⟨older, last, rfl⟩ := holds.exists_last filled
  rw [holds.pop.2]
  exact (bounded last (by simp)).2

/-- An instruction that takes effect keeps the invariant. -/
theorem sound_effect (sound : state.Sound) (running : state.fault = none)
    (awake : state.waiting = false) (near : state.pc.toNat ≤ 0xFFE) {word : UInt16}
    (marked : state.opcode = word) {form : Form} (found : Form.ofWord? word = some form)
    (safe : form.hazard? (Operands.ofWord word) state = none) :
    (form.effect (Operands.ofWord word) state).Sound where
  stack := stack_effect_sound sound near safe
  pc_le := by
    rw [Form.pc_effect]
    exact form.toNat_target_le _ near (toNat_pop_le sound safe)
  code_le := by
    rw [Form.fault_effect]
    exact sound.code_le
  keyRegister_le := by
    rw [Form.keyRegister_effect]
    split
    · have bound := (Operands.ofWord word).x.isLt
      rw [UInt8.le_iff_toNat_le, UInt8.toNat_ofNat']
      simp only [UInt8.reduceToNat]
      omega
    · exact sound.keyRegister_le
  waits := by
    rw [Form.waiting_effect, Form.fault_effect, Form.pc_effect, Form.opcode_effect,
      Form.keyRegister_effect]
    split
    · intro _
      have bound := (Operands.ofWord word).x.isLt
      have digits := (Form.covers_iff_toNat _ word).mp (Form.covers_of_ofWord? found)
      simp only [Form.row, Form.free, UInt16.reduceToNat] at digits
      refine ⟨running, near, ?_⟩
      rw [marked, digits, UInt8.toNat_ofNat']
      omega
    · intro waits
      simp [awake] at waits

/-- A cycle keeps the invariant. -/
theorem sound_step (state : State) (sound : state.Sound) : state.step.Sound := by
  cases state.cycleCases with
  | stopped _ same => rwa [same]
  | pressed key running waits _ resolved =>
    -- only here the program counter moves without a fetch, so the wait has to bound it
    obtain ⟨-, near, -⟩ := sound.waits waits
    have moved := toNat_pc_next sound.pc_le
    rw [resolved]
    refine ⟨sound.stack, ?_, sound.code_le, sound.keyRegister_le, nofun⟩
    change state.next.pc.toNat ≤ 0x10FE
    omega
  | unpressed _ _ _ looked =>
    rw [looked]
    exact ⟨sound.stack, sound.pc_le, sound.code_le, sound.keyRegister_le, sound.waits⟩
  | outside _ awake _ halts =>
    rw [halts]
    have code : Fault.address.code ≤ 5 := by decide
    refine ⟨sound.stack, sound.pc_le, code, sound.keyRegister_le, ?_⟩
    intro waits
    simp [awake] at waits
  | blocked fault pending obstacle halts =>
    obtain ⟨-, awake, -⟩ := pendingWord?_eq_fetch_iff.mp pending
    rw [halts]
    refine ⟨sound.stack, sound.pc_le, code_le_of_obstacle obstacle, sound.keyRegister_le, ?_⟩
    intro waits
    simp [awake] at waits
  | executed form pending found safe runs =>
    obtain ⟨running, awake, near⟩ := pendingWord?_eq_fetch_iff.mp pending
    rw [runs]
    -- the executed word is recorded first, in a state that was not waiting
    have recorded : { state with opcode := state.fetch }.Sound :=
      ⟨sound.stack, sound.pc_le, sound.code_le, sound.keyRegister_le, by simp [awake]⟩
    rw [← Form.hazard?_mark form _ state state.fetch state.fault] at safe
    exact sound_effect recorded running awake (UInt16.le_iff_toNat_le.mp near) rfl found safe

/-- **Reachable states.** However cycles, ticks, beeps, keys, frames, programs and writes follow one
another from a fresh state: the stack pointer stays between its ends, the slots below it give
addresses behind instructions and those above it zero, the program counter stays so low that no sum
of it wraps, the fault is none or one with a meaning, and a machine that waits has not stopped and
stands at the instruction that made it wait. -/
theorem reachable_sound (random : Random.Pair) {history : List Request}
    (ordinary : ∀ request ∈ history, request.isOrdinary = true) :
    let state := (fresh random).after history
    (0 ≤ state.stack.pointer.toInt ∧ state.stack.pointer.toInt ≤ 16) ∧
    (∀ (slot : Nat) (inside : slot < 16),
      ((slot : Int) < state.stack.pointer.toInt →
        2 ≤ state.stack.slots[slot].toNat ∧ state.stack.slots[slot].toNat ≤ 0x1000) ∧
      (state.stack.pointer.toInt ≤ slot → state.stack.slots[slot] = 0)) ∧
    state.pc.toNat ≤ 0x10FE ∧
    state.SumsFit ∧
    Fault.codeOf state.fault ≤ 5 ∧
    state.keyRegister ≤ 15 ∧
    (state.waiting = true → state.fault = none ∧ state.pc.toNat ≤ 0xFFE ∧
      state.opcode.toNat = 0xF00A + 256 * state.keyRegister.toNat) := by
  intro state
  have sound : state.Sound :=
    after_preserves sound_step sound_hostChange ordinary (sound_fresh random)
  obtain ⟨addresses, holds, bounded⟩ := sound.stack
  have length := holds.length_le
  have here := holds.pointer_eq
  refine ⟨by omega, fun slot inside => ⟨fun below => ?_, fun above => ?_⟩, sound.pc_le,
    sumsFit_of_le sound.pc_le, sound.code_le, sound.keyRegister_le, sound.waits⟩
  · have stored : slot < addresses.length := by omega
    rw [holds.slot_eq slot inside, List.getElem?_eq_getElem stored]
    exact bounded _ (List.getElem_mem stored)
  · have past : addresses.length ≤ slot := by omega
    rw [holds.slot_eq slot inside, List.getElem?_eq_none past]
    rfl

/-- A machine that waits for a key inside a call. -/
theorem reachable_sound_at_wait :
    let state := (fresh ⟨0, 0⟩).after
      [.loadProgram [0x22, 0x02, 0xF3, 0x0A], .step, .tick, .step, .run 5]
    state.waiting = true ∧ state.stack.pointer.toInt = 1 ∧ state.fault = none ∧
      state.pc.toNat ≤ 0xFFE ∧ state.opcode.toNat = 0xF00A + 256 * state.keyRegister.toNat := by
  intro state
  have now : state.waiting = true ∧ state.stack.pointer.toInt = 1 := by decide +kernel
  obtain ⟨-, -, -, -, -, -, waiting⟩ := @reachable_sound ⟨0, 0⟩
    [.loadProgram [0x22, 0x02, 0xF3, 0x0A], .step, .tick, .step, .run 5] (by decide)
  exact ⟨now.1, now.2, waiting now.1⟩

end State

end Chip8
