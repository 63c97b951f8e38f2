import Chip8.Proofs.Histories
import Chip8.Proofs.Ownership

/-!
# Registers to memory and back

A word `FX55` copies the registers up to the one it names into memory, and a word `FX65` copies as
many bytes back. Each moves what it names and nothing else, also where the last byte is the last one
of memory, so what was stored is there again when it is loaded, as long as nobody moved the index
register or wrote over it. A word `FX33` stores the three decimal digits of one register.
`State.transfers_exact` puts this together.
-/

namespace Chip8

namespace Form

/-- The registers up to the last one are the first of all. -/
theorem registersUpTo_eq_map_take (state : State) (last : Fin 16) :
    registersUpTo state last = ((List.finRange 16).take (last + 1)).map state.registers.get := by
  have upTo : ∀ last : Fin 16,
      (List.finRange 16).filter (· ≤ last) = (List.finRange 16).take (last + 1) := by decide
  rw [← upTo, ← List.filterMap_eq_map, List.filterMap_filter]
  simp only [registersUpTo, decide_eq_true_eq, Function.comp_apply]

theorem getElem?_registersUpTo (state : State) {register last : Fin 16} (upTo : register ≤ last) :
    (registersUpTo state last)[register.val]? = some (state.registers.get register) := by
  have inside : register.val < last.val + 1 := by omega
  rw [registersUpTo_eq_map_take, List.getElem?_map, List.getElem?_take_of_lt inside]
  simp

/-- The hundreds, tens and units make up the byte. -/
theorem decimalDigits_exact (value : UInt8) : ∃ hundreds tens units : UInt8,
    decimalDigits value = [hundreds, tens, units] ∧
      hundreds.toNat ≤ 9 ∧ tens.toNat ≤ 9 ∧ units.toNat ≤ 9 ∧
      100 * hundreds.toNat + 10 * tens.toNat + units.toNat = value.toNat := by
  have bound := value.toNat_lt
  refine ⟨_, _, _, rfl, ?_⟩
  simp only [UInt8.toNat_div, UInt8.toNat_mod, UInt8.reduceToNat]
  omega

end Form

namespace State

variable {state : State} {word : UInt16} {x : Fin 16}

/-- What a word `FX55` does whose bytes lie in memory. -/
theorem execute_storeRegisters (digits : word.toNat = 0xF055 + 0x100 * x)
    (inside : state.index.toNat + x + 1 ≤ 4096) :
    state.execute word = { state with
      memory := state.memory.writeAll state.index.toNat (Form.registersUpTo state x)
      pc := state.pc + 2
      opcode := word } := by
  have named : (Operands.ofWord word).x = x := Operands.x_ofWord_of_digits digits rfl
  have safe : Form.storeRegisters.hazard? (Operands.ofWord word) state = none := by
    rw [Form.hazard?, named]
    exact Form.reach?_of_inside inside
  rw [execute_of_digits .storeRegisters (by decide) (by rw [Form.free, named]; exact digits) safe,
    Form.effect, named]
  rfl

/-- What a word `FX65` does whose bytes lie in memory. -/
theorem execute_loadRegisters (digits : word.toNat = 0xF065 + 0x100 * x)
    (inside : state.index.toNat + x + 1 ≤ 4096) :
    state.execute word = { state with
      registers := Form.registersFromMemory state x
      pc := state.pc + 2
      opcode := word } := by
  have named : (Operands.ofWord word).x = x := Operands.x_ofWord_of_digits digits rfl
  have safe : Form.loadRegisters.hazard? (Operands.ofWord word) state = none := by
    rw [Form.hazard?, named]
    exact Form.reach?_of_inside inside
  rw [execute_of_digits .loadRegisters (by decide) (by rw [Form.free, named]; exact digits) safe,
    Form.effect, named]
  rfl

/-- What a word `FX33` does whose bytes lie in memory. -/
theorem execute_storeDecimal (digits : word.toNat = 0xF033 + 0x100 * x)
    (inside : state.index.toNat + 3 ≤ 4096) :
    state.execute word = { state with
      memory := state.memory.writeAll state.index.toNat
        (Form.decimalDigits (state.registers.get x))
      pc := state.pc + 2
      opcode := word } := by
  have named : (Operands.ofWord word).x = x := Operands.x_ofWord_of_digits digits rfl
  rw [execute_of_digits .storeDecimal (by decide) (by rw [Form.free, named]; exact digits)
    (Form.reach?_of_inside inside), Form.effect, named]
  rfl

theorem read_execute_storeRegisters (digits : word.toNat = 0xF055 + 0x100 * x)
    (inside : state.index.toNat + x + 1 ≤ 4096) {register : Fin 16} (upTo : register ≤ x) :
    (state.execute word).memory.read (state.index.toNat + register) =
      state.registers.get register := by
  rw [execute_storeRegisters digits inside]
  exact state.memory.read_writeAll_inside (Form.getElem?_registersUpTo state upTo) (by omega)

theorem get_execute_loadRegisters (digits : word.toNat = 0xF065 + 0x100 * x)
    (inside : state.index.toNat + x + 1 ≤ 4096) (register : Fin 16) :
    (state.execute word).registers.get register =
      if register ≤ x then state.memory.read (state.index.toNat + register)
      else state.registers.get register := by
  rw [execute_loadRegisters digits inside]
  exact Registers.get_ofFn _ register

/-- **Transfers are exact.** A word `FX55` whose bytes lie in memory stores the registers up to the
one it names, in order, from the index register on, and changes no other byte. A word `FX65` loads
as many bytes, and changes no other register. Both leave all else as it was, but the program counter
and the executed word. So whatever happens in between, if it moves neither the index register nor
the stored bytes, a word `FX65` brings back the registers that a word `FX55` stored. A word `FX33`
stores the three decimal digits of the register it names, and changes nothing else either. -/
theorem transfers_exact (state : State) (x : Fin 16) (word : UInt16) :
    (word.toNat = 0xF055 + 0x100 * x → state.index.toNat + x + 1 ≤ 4096 →
      let stored := state.execute word
      (∀ register ≤ x, stored.memory.read (state.index.toNat + register) =
        state.registers.get register) ∧
      (∀ address < 4096, address < state.index.toNat ∨ state.index.toNat + x < address →
        stored.memory.read address = state.memory.read address) ∧
      stored = { state with memory := stored.memory, pc := state.pc + 2, opcode := word } ∧
      ∀ (history : List Request) (back : UInt16), back.toNat = 0xF065 + 0x100 * x →
        let later := stored.after history
        later.index = stored.index →
        (∀ register ≤ x, later.memory.read (state.index.toNat + register) =
          stored.memory.read (state.index.toNat + register)) →
        ∀ register ≤ x,
          (later.execute back).registers.get register = state.registers.get register) ∧
    (word.toNat = 0xF065 + 0x100 * x → state.index.toNat + x + 1 ≤ 4096 →
      let loaded := state.execute word
      (∀ register ≤ x, loaded.registers.get register =
        state.memory.read (state.index.toNat + register)) ∧
      (∀ register, x < register →
        loaded.registers.get register = state.registers.get register) ∧
      loaded = { state with registers := loaded.registers, pc := state.pc + 2, opcode := word }) ∧
    (word.toNat = 0xF033 + 0x100 * x → state.index.toNat + 3 ≤ 4096 →
      let stored := state.execute word
      let digit := fun place => (stored.memory.read (state.index.toNat + place)).toNat
      (digit 0 ≤ 9 ∧ digit 1 ≤ 9 ∧ digit 2 ≤ 9 ∧
        100 * digit 0 + 10 * digit 1 + digit 2 = (state.registers.get x).toNat) ∧
      (∀ address < 4096, address < state.index.toNat ∨ state.index.toNat + 2 < address →
        stored.memory.read address = state.memory.read address) ∧
      stored = { state with memory := stored.memory, pc := state.pc + 2, opcode := word }) := by
  refine ⟨fun digits inside => ?store, fun digits inside => ?load, fun digits inside => ?decimal⟩
  case store =>
    intro stored
    have does : stored = _ := execute_storeRegisters digits inside
    refine ⟨fun register => read_execute_storeRegisters digits inside, ?_, by rw [does], ?_⟩
    · intro address present outside
      rw [does]
      refine state.memory.read_writeAll_outside present ?_
      rw [Form.length_registersUpTo]
      omega
    · intro history back backDigits later sameIndex sameBytes register upTo
      have index : later.index = state.index := by rw [sameIndex, does]
      rw [get_execute_loadRegisters backDigits (by rw [index]; exact inside), if_pos upTo, index,
        sameBytes register upTo]
      exact read_execute_storeRegisters digits inside upTo
  case load =>
    intro loaded
    refine ⟨fun register upTo => ?_, fun register past => ?_, ?_⟩
    · exact (get_execute_loadRegisters digits inside register).trans (if_pos upTo)
    · exact (get_execute_loadRegisters digits inside register).trans (if_neg (by omega))
    · have does : loaded = _ := execute_loadRegisters digits inside
      rw [does]
  case decimal =>
    intro stored digit
    have does : stored = _ := execute_storeDecimal digits inside
    obtain ⟨hundreds, tens, units, written, first, second, third, sum⟩ :=
      Form.decimalDigits_exact (state.registers.get x)
    have reads : ∀ (place : Nat) (value : UInt8),
        [hundreds, tens, units][place]? = some value → place < 3 → digit place = value.toNat := by
      intro place value found low
      simp only [digit]
      rw [does, written]
      exact congrArg _ (state.memory.read_writeAll_inside found (by omega))
    refine ⟨?_, ?_, by rw [does]⟩
    · rw [reads 0 hundreds rfl (by decide), reads 1 tens rfl (by decide),
        reads 2 units rfl (by decide)]
      exact ⟨first, second, third, sum⟩
    · intro address present outside
      rw [does]
      refine state.memory.read_writeAll_outside present ?_
      rw [written, List.length_cons, List.length_cons, List.length_cons, List.length_nil]
      omega

/-- Four registers are stored in the last four bytes of memory. A program clears two of them while
the timers tick, and all four are loaded again. The digits of a register go to the same place. -/
theorem transfers_exact_at_end :
    let state := { (fresh ⟨0, 0⟩).after [.loadProgram [0xF3, 0x55, 0x60, 0x00, 0x63, 0x00]] with
      index := 0xFFC
      registers := Registers.ofFn fun register => UInt8.ofNat (250 + register) }
    let later := (state.execute 0xF355).after [.step, .tick, .run 1]
    let digits := state.execute 0xF233
    (0xF355 : UInt16).toNat = 0xF055 + 0x100 * 3 ∧ (0xF365 : UInt16).toNat = 0xF065 + 0x100 * 3 ∧
      (0xF233 : UInt16).toNat = 0xF033 + 0x100 * 2 ∧ state.index.toNat + 3 + 1 ≤ 4096 ∧
      later.registers.get 0 = 0 ∧ later.registers.get 3 = 0 ∧
      (later.execute 0xF365).registers.get 0 = state.registers.get 0 ∧
      (later.execute 0xF365).registers.get 3 = state.registers.get 3 ∧
      (state.execute 0xF365).registers.get 4 = state.registers.get 4 ∧
      (digits.memory.read 0xFFC).toNat ≤ 9 := by
  intro state later digits
  have stores : (0xF355 : UInt16).toNat = 0xF055 + 0x100 * 3 := by decide
  have loads : (0xF365 : UInt16).toNat = 0xF065 + 0x100 * 3 := by decide
  have decimal : (0xF233 : UInt16).toNat = 0xF033 + 0x100 * 2 := by decide
  have inside : state.index.toNat + 3 + 1 ≤ 4096 := by decide +kernel
  obtain ⟨stored, -, -⟩ := transfers_exact state 3 0xF355
  obtain ⟨-, loaded, -⟩ := transfers_exact state 3 0xF365
  obtain ⟨-, -, written⟩ := transfers_exact state 2 0xF233
  obtain ⟨bytes, -, -, restored⟩ := stored stores inside
  have ran : (∀ register ≤ (3 : Fin 16),
      later.memory.read (state.index.toNat + register) = state.registers.get register) ∧
        later.index = (state.execute 0xF355).index ∧
        later.registers.get 0 = 0 ∧ later.registers.get 3 = 0 := by decide +kernel
  obtain ⟨kept, still, cleared⟩ := ran
  have back := restored [.step, .tick, .run 1] 0xF365 loads still
    fun register upTo => (kept register upTo).trans (bytes register upTo).symm
  exact ⟨stores, loads, decimal, inside, cleared.1, cleared.2, back 0 (by decide),
    back 3 (by decide), (loaded loads inside).2.1 4 (by decide),
    (written decimal (Nat.le_of_succ_le inside)).1.1⟩

end State

end Chip8
