import Chip8.CallStack

/-!
# What a call stack holds

The slots and the pointer of a call stack as one list of return addresses, the oldest first. A stack
holds a list if the pointer tells its length, the slots give it from the first on, and every slot
behind it is zero. A stack is determined by what it holds (`Holds.unique`), and `push` and `pop` are
the two ends of appending an address (`Holds.push`, `Holds.pop`).
-/

namespace Chip8.CallStack

/-- The stack holds the addresses, the oldest first, and nothing behind them. -/
structure Holds (stack : CallStack) (addresses : List UInt16) : Prop where
  length_le : addresses.length ≤ 16
  pointer_eq : stack.pointer.toInt = addresses.length
  slot_eq : ∀ slot (inside : slot < 16), stack.slots[slot] = addresses[slot]?.getD 0

theorem holds_empty : empty.Holds [] where
  length_le := by decide
  pointer_eq := rfl
  slot_eq slot inside := by simp [empty]

/-- A stack that is clear from its pointer on holds the addresses below it. -/
theorem exists_holds {stack : CallStack} {depth : Nat} (here : stack.pointer.toInt = depth)
    (inside : depth ≤ 16)
    (clear : ∀ (slot : Nat) (inside : slot < 16), depth ≤ slot → stack.slots[slot] = 0) :
    ∃ addresses, addresses.length = depth ∧ stack.Holds addresses := by
  have length : (stack.slots.toList.take depth).length = depth := by simp [inside]
  refine ⟨stack.slots.toList.take depth, length, ⟨by omega, by omega, fun slot bound => ?_⟩⟩
  by_cases below : slot < depth
  · rw [List.getElem?_take_of_lt below, Vector.getElem?_toList, Vector.getElem?_eq_getElem bound]
    rfl
  · rw [List.getElem?_eq_none (by omega), clear slot bound (by omega)]
    rfl

/-! ## The pointer as an integer -/

theorem isFull_iff (stack : CallStack) : stack.isFull = true ↔ 16 ≤ stack.pointer.toInt := by
  rw [isFull, decide_eq_true_eq, Int32.le_iff_toInt_le]
  rfl

theorem isEmpty_iff (stack : CallStack) : stack.isEmpty = true ↔ stack.pointer.toInt ≤ 0 := by
  rw [isEmpty, decide_eq_true_eq, Int32.le_iff_toInt_le]
  rfl

/-- Below its last value a pointer goes up by one. -/
theorem toInt_pointer_push (stack : CallStack) (address : UInt16)
    (notLast : stack.pointer.toInt < 0x7FFFFFFF) :
    (stack.push address).pointer.toInt = stack.pointer.toInt + 1 := by
  have least := stack.pointer.le_toInt
  rw [pointer_push, Int32.toInt_add]
  exact Int.bmod_eq_of_le (by simp; omega) (by simp; omega)

/-- Above its first value a pointer goes down by one. -/
theorem toInt_pointer_pop (stack : CallStack) (notFirst : -0x80000000 < stack.pointer.toInt) :
    stack.pop.1.pointer.toInt = stack.pointer.toInt - 1 := by
  have greatest := stack.pointer.toInt_lt
  rw [pointer_pop, Int32.toInt_sub]
  exact Int.bmod_eq_of_le (by simp; omega) (by simp; omega)

/-- What a list with one more address gives for a slot. -/
theorem getD_concat (addresses : List UInt16) (last : UInt16) (slot : Nat) :
    (addresses ++ [last])[slot]?.getD 0 =
      if addresses.length = slot then last else addresses[slot]?.getD 0 := by
  rcases Nat.lt_trichotomy slot addresses.length with below | rfl | above
  · simp [List.getElem?_append_left below, Nat.ne_of_gt below]
  · simp
  · have past : (addresses ++ [last]).length ≤ slot := by
      rw [List.length_append]
      exact above
    rw [List.getElem?_eq_none past, if_neg (Nat.ne_of_lt above),
      List.getElem?_eq_none (Nat.le_of_lt above)]

namespace Holds

variable {stack other : CallStack} {addresses : List UInt16}

theorem unique (first : stack.Holds addresses) (second : other.Holds addresses) :
    stack = other := by
  have pointers : stack.pointer = other.pointer := by
    rw [← Int32.toInt_inj, first.pointer_eq, second.pointer_eq]
  have slots : stack.slots = other.slots := by
    apply Vector.ext
    intro slot inside
    rw [first.slot_eq slot inside, second.slot_eq slot inside]
  cases stack
  cases other
  simp only [mk.injEq]
  exact ⟨slots, pointers⟩

theorem isFull_iff (holds : stack.Holds addresses) :
    stack.isFull = true ↔ addresses.length = 16 := by
  have bound := holds.length_le
  rw [CallStack.isFull_iff, holds.pointer_eq]
  omega

theorem isEmpty_iff (holds : stack.Holds addresses) :
    stack.isEmpty = true ↔ addresses = [] := by
  rw [CallStack.isEmpty_iff, holds.pointer_eq, ← List.length_eq_zero_iff]
  omega

/-- A stack that is not empty has a last address. -/
theorem exists_last (holds : stack.Holds addresses) (filled : stack.isEmpty = false) :
    ∃ older last, addresses = older ++ [last] := by
  have some : addresses ≠ [] := by
    intro none
    simp [holds.isEmpty_iff.mpr none] at filled
  exact ⟨addresses.dropLast, addresses.getLast some, (List.dropLast_concat_getLast some).symm⟩

/-- Where there is room, `push` appends an address. -/
theorem push (holds : stack.Holds addresses) (room : addresses.length < 16) (address : UInt16) :
    (stack.push address).Holds (addresses ++ [address]) where
  length_le := by simp; omega
  pointer_eq := by
    have here := holds.pointer_eq
    rw [toInt_pointer_push stack address (by omega), here]
    simp
  slot_eq slot inside := by
    have slots : (stack.push address).slots = stack.slots.set addresses.length address := by
      simp only [CallStack.push, holds.pointer_eq, slots_write_of_inside stack address room]
    simp only [slots, Vector.getElem_set, getD_concat, holds.slot_eq slot inside]

/-- `pop` gives the last address back and leaves the others. -/
theorem pop {last : UInt16} (holds : stack.Holds (addresses ++ [last])) :
    stack.pop.1.Holds addresses ∧ stack.pop.2 = last := by
  have length := holds.length_le
  have here := holds.pointer_eq
  simp only [List.length_append, List.length_singleton] at length here
  have lower : (stack.pointer - 1).toInt = addresses.length := by
    have moved := toInt_pointer_pop stack (by omega)
    rw [pointer_pop] at moved
    omega
  have slots : stack.pop.1.slots = stack.slots.set addresses.length 0 := by
    simp only [CallStack.pop, lower, slots_write_of_inside stack 0 length]
  refine ⟨⟨by omega, lower, fun slot inside => ?_⟩, ?_⟩
  · simp only [slots, Vector.getElem_set, holds.slot_eq slot inside, getD_concat]
    split
    · next here => simp [← here]
    · rfl
  · rw [CallStack.pop, lower, read_of_inside stack length, holds.slot_eq _ length]
    simp

end Holds

end Chip8.CallStack
