import Mathlib.Algebra.GroupWithZero.Nat
import Chip8.Proofs.CycleCases

/-!
# Arithmetic instructions on the registers

A word `8XYn` computes on two registers that may be one and the same, and either of them may be the
flag register. It reads both before it writes, and it writes the result before the flag. So result
and flag are those of the exact integers in every case, and where both go to the flag register, the
flag is what stays. A word `7XNN` adds without a flag; any number of them add up.
`State.arithmetic_exact` puts this together.
-/

namespace Chip8

namespace Registers

/-- Writing back what a register holds changes nothing. -/
theorem set_get (registers : Registers) (register : Fin 16) :
    registers.set register (registers.get register) = registers := by
  refine ext fun other => ?_
  rw [get_set]
  split
  · next same => rw [same]
  · rfl

end Registers

namespace Operation

/-! ## The words of an operation -/

/-- The form of the words that carry out an operation. -/
def form : Operation → Form
  | move => .move
  | bitOr => .bitOr
  | bitAnd => .bitAnd
  | bitXor => .bitXor
  | add => .add
  | subtract => .subtract
  | shiftRight => .shiftRight
  | subtractFrom => .subtractFrom
  | shiftLeft => .shiftLeft

/-- The last digit of those words. -/
def digit : Operation → Nat
  | move => 0
  | bitOr => 1
  | bitAnd => 2
  | bitXor => 3
  | add => 4
  | subtract => 5
  | shiftRight => 6
  | subtractFrom => 7
  | shiftLeft => 0xE

theorem form_ne_machineCall (operation : Operation) : operation.form ≠ .machineCall := by
  cases operation <;> decide

theorem toNat_pattern_form (operation : Operation) :
    operation.form.row.pattern.toNat = 0x8000 + operation.digit := by
  cases operation <;> rfl

theorem free_form (operation : Operation) (operands : Operands) :
    operation.form.free operands = 0x100 * operands.x + 0x10 * operands.y := by
  cases operation <;> rfl

theorem hazard?_form (operation : Operation) (operands : Operands) (state : State) :
    operation.form.hazard? operands state = none := by
  cases operation <;> rfl

theorem effect_form (operation : Operation) (operands : Operands) (state : State) :
    operation.form.effect operands state = Form.combine operation operands state := by
  cases operation <;> rfl

/-- The registers after an operation on two of them: first the result is written, then the flag. -/
def write (operation : Operation) (registers : Registers) (x y : Fin 16) : Registers :=
  let a := registers.get x
  let b := registers.get y
  let written := registers.set x (operation.result a b)
  match operation.flag? a b with
  | some value => written.set Layout.flagRegister value
  | none => written

theorem combine_eq_write (operation : Operation) (operands : Operands) (state : State) :
    Form.combine operation operands state =
      { state with
        registers := operation.write state.registers operands.x operands.y
        pc := state.pc + 2 } := by
  cases told : operation.flag? (state.registers.get operands.x)
    (state.registers.get operands.y) with
  | some value =>
    simp only [Form.combine, write, told]
    rfl
  | none =>
    simp only [Form.combine, write, told]
    rfl

/-! ## Flags are bits -/

theorem toNat_flag_le (condition : Bool) : (flag condition).toNat ≤ 1 := by
  cases condition <;> decide

theorem toNat_unit_le (value : UInt8) : (value &&& 1).toNat ≤ 1 := by
  rw [UInt8.toNat_and]
  exact Nat.and_le_right

theorem toNat_top_le (value : UInt8) : (value >>> 7).toNat ≤ 1 := by
  have exact := shiftLeft_exact value value
  have bound := value.toNat_lt
  omega

/-! ## Result and flag as integers -/

variable (a b : UInt8)

theorem add_balanced :
    ((result add a b).toNat : Int) + 256 * (flag (256 ≤ a.toNat + b.toNat)).toNat =
      a.toNat + b.toNat := by
  have exact := add_exact a b
  omega

theorem subtract_balanced :
    ((result subtract a b).toNat : Int) =
      a.toNat - b.toNat + 256 * (1 - (flag (b ≤ a)).toNat) := by
  have exact := subtract_exact a b
  have bit := toNat_flag_le (b ≤ a)
  omega

theorem shiftRight_balanced :
    (a.toNat : Int) = 2 * (result shiftRight a b).toNat + (a &&& 1).toNat := by
  have exact := shiftRight_exact a b
  omega

theorem subtractFrom_balanced :
    ((result subtractFrom a b).toNat : Int) =
      b.toNat - a.toNat + 256 * (1 - (flag (a ≤ b)).toNat) :=
  subtract_balanced b a

theorem shiftLeft_balanced :
    2 * (a.toNat : Int) = (result shiftLeft a b).toNat + 256 * (a >>> 7).toNat := by
  have exact := shiftLeft_exact a b
  omega

end Operation

namespace State

variable {state : State} {word : UInt16} {x y : Fin 16}

/-- What a word `8XYn` does that names an operation. -/
theorem execute_operation (operation : Operation)
    (digits : word.toNat = 0x8000 + 0x100 * x + 0x10 * y + operation.digit) :
    state.execute word = { state with
      registers := operation.write state.registers x y
      pc := state.pc + 2
      opcode := word } := by
  have last : operation.digit < 0x10 := by cases operation <;> decide
  have first : (Operands.ofWord word).x = x := by
    have named := Operands.val_x_ofWord word
    omega
  have second : (Operands.ofWord word).y = y := by
    have named := Operands.val_y_ofWord word
    omega
  have shape : word.toNat = operation.form.row.pattern.toNat
      + operation.form.free (Operands.ofWord word) := by
    rw [operation.toNat_pattern_form, operation.free_form, first, second]
    omega
  rw [execute_of_digits operation.form operation.form_ne_machineCall shape
    (operation.hazard?_form _ state), operation.effect_form, operation.combine_eq_write, first,
    second]

/-- A word writes one register and goes on. -/
def Sets (state : State) (word : UInt16) (x : Fin 16) (result : UInt8) : Prop :=
  state.execute word = { state with
    registers := state.registers.set x result
    pc := state.pc + 2
    opcode := word }

/-- A word writes a result to one register, then a flag to the flag register, and goes on. The law
is what binds result and flag. -/
def SetsAndFlags (state : State) (word : UInt16) (x : Fin 16) (law : Int → Int → Prop) : Prop :=
  ∃ result flag : UInt8, flag.toNat ≤ 1 ∧ law result.toNat flag.toNat ∧
    state.execute word = { state with
      registers := (state.registers.set x result).set 0xF flag
      pc := state.pc + 2
      opcode := word }

theorem sets_of_operation (operation : Operation)
    (digits : word.toNat = 0x8000 + 0x100 * x + 0x10 * y + operation.digit)
    (plain : operation.flag? (state.registers.get x) (state.registers.get y) = none) :
    state.Sets word x (operation.result (state.registers.get x) (state.registers.get y)) := by
  rw [Sets, execute_operation operation digits]
  simp only [Operation.write, plain]

theorem setsAndFlags_of_operation (operation : Operation)
    (digits : word.toNat = 0x8000 + 0x100 * x + 0x10 * y + operation.digit)
    {flag : UInt8} {law : Int → Int → Prop}
    (tells : operation.flag? (state.registers.get x) (state.registers.get y) = some flag)
    (bit : flag.toNat ≤ 1)
    (balanced : law
      (operation.result (state.registers.get x) (state.registers.get y)).toNat flag.toNat) :
    state.SetsAndFlags word x law := by
  refine ⟨_, flag, bit, balanced, ?_⟩
  rw [execute_operation operation digits]
  simp only [Operation.write, tells]
  rfl

/-! ## Adding bytes -/

/-- The word `7XNN`. -/
def addByteWord (x : Fin 16) (nn : Fin 256) : UInt16 :=
  UInt16.ofNat (0x7000 + 0x100 * x + nn)

theorem execute_addByteWord (state : State) (x : Fin 16) (nn : Fin 256) :
    state.Sets (addByteWord x nn) x (state.registers.get x + UInt8.ofNat nn) := by
  have digits : (addByteWord x nn).toNat = 0x7000 + 0x100 * x + nn :=
    UInt16.toNat_ofNat_of_lt (by rw [UInt16.size]; omega)
  have first : (Operands.ofWord (addByteWord x nn)).x = x := by
    have named := Operands.val_x_ofWord (addByteWord x nn)
    omega
  have byte : (Operands.ofWord (addByteWord x nn)).byte = UInt8.ofNat nn := by
    have named := Operands.val_nn_ofWord (addByteWord x nn)
    rw [Operands.byte, named, digits]
    congr 1
    omega
  have shape : (addByteWord x nn).toNat = Form.addByte.row.pattern.toNat
      + Form.addByte.free (Operands.ofWord (addByteWord x nn)) := by
    have address := Operands.val_nnn_ofWord (addByteWord x nn)
    simp only [Form.row, Form.free, UInt16.reduceToNat]
    omega
  rw [Sets, execute_of_digits .addByte (by decide) shape rfl, Form.effect, first, byte]
  rfl

/-- Words `7XNN` one after another add the sum of their bytes. -/
theorem execute_addByteWords (state : State) (x : Fin 16) (bytes : List (Fin 256)) :
    ∃ opcode, (bytes.map (addByteWord x)).foldl execute state = { state with
      registers := state.registers.set x
        (state.registers.get x + UInt8.ofNat (bytes.map Fin.val).sum)
      pc := state.pc + UInt16.ofNat (2 * bytes.length)
      opcode } := by
  induction bytes generalizing state with
  | nil =>
    have same : state.registers.set x (state.registers.get x + 0) = state.registers := by
      rw [UInt8.add_zero, Registers.set_get]
    have stays : state.pc + 0 = state.pc := UInt16.add_zero state.pc
    refine ⟨state.opcode, ?_⟩
    change state = { state with
      registers := state.registers.set x (state.registers.get x + 0), pc := state.pc + 0 }
    rw [same, stays]
  | cons nn rest ih =>
    obtain ⟨opcode, later⟩ := ih (state.execute (addByteWord x nn))
    refine ⟨opcode, ?_⟩
    have once : state.execute (addByteWord x nn) = _ := execute_addByteWord state x nn
    have sum : state.registers.get x + UInt8.ofNat nn + UInt8.ofNat (rest.map Fin.val).sum =
        state.registers.get x + UInt8.ofNat ((nn :: rest).map Fin.val).sum := by
      rw [List.map_cons, List.sum_cons, UInt8.ofNat_add, UInt8.add_assoc]
    have distance : state.pc + 2 + UInt16.ofNat (2 * rest.length) =
        state.pc + UInt16.ofNat (2 * (nn :: rest).length) := by
      rw [List.length_cons, Nat.mul_add, Nat.add_comm, UInt16.ofNat_add, UInt16.add_assoc]
      rfl
    rw [List.map_cons, List.foldl_cons, later, once]
    simp only [Registers.get_set_self, Registers.set_set, sum, distance]

/-- **Arithmetic is exact.** The words `8XY0` to `8XY3` write the copy and the bitwise or, and and
exclusive or of two registers to the first one, and no other. The words `8XY4` to `8XY7` and `8XYE`
write a result to the first one and then a flag to the flag register, and no other, and the two make
up the exact integer: a set flag stands for a carry of 256, for the borrow of 256 that was not
needed, or for the bit shifted out. Here the two registers, and the flag register, may be the same.
Words `7XNN` for any list of bytes add their sum to one register, modulo 256, and change no other
one. -/
theorem arithmetic_exact (state : State) (word : UInt16) (x y : Fin 16) :
    let a := state.registers.get x
    let b := state.registers.get y
    (word.toNat = 0x8000 + 0x100 * x + 0x10 * y + 0 → state.Sets word x b) ∧
    (word.toNat = 0x8000 + 0x100 * x + 0x10 * y + 1 → state.Sets word x (a ||| b)) ∧
    (word.toNat = 0x8000 + 0x100 * x + 0x10 * y + 2 → state.Sets word x (a &&& b)) ∧
    (word.toNat = 0x8000 + 0x100 * x + 0x10 * y + 3 → state.Sets word x (a ^^^ b)) ∧
    (word.toNat = 0x8000 + 0x100 * x + 0x10 * y + 4 → state.SetsAndFlags word x
      fun result flag => result + 256 * flag = a.toNat + b.toNat) ∧
    (word.toNat = 0x8000 + 0x100 * x + 0x10 * y + 5 → state.SetsAndFlags word x
      fun result flag => result = a.toNat - b.toNat + 256 * (1 - flag)) ∧
    (word.toNat = 0x8000 + 0x100 * x + 0x10 * y + 6 → state.SetsAndFlags word x
      fun result flag => a.toNat = 2 * result + flag) ∧
    (word.toNat = 0x8000 + 0x100 * x + 0x10 * y + 7 → state.SetsAndFlags word x
      fun result flag => result = b.toNat - a.toNat + 256 * (1 - flag)) ∧
    (word.toNat = 0x8000 + 0x100 * x + 0x10 * y + 0xE → state.SetsAndFlags word x
      fun result flag => 2 * a.toNat = result + 256 * flag) ∧
    ∀ bytes : List (Fin 256),
      let after := (bytes.map (addByteWord x)).foldl execute state
      (after.registers.get x).toNat = (a.toNat + (bytes.map Fin.val).sum) % 256 ∧
      (∀ register, register ≠ x →
        after.registers.get register = state.registers.get register) ∧
      after = { state with
        registers := after.registers
        pc := state.pc + UInt16.ofNat (2 * bytes.length)
        opcode := after.opcode } := by
  intro a b
  refine ⟨fun digits => ?move, fun digits => ?bitOr, fun digits => ?bitAnd, fun digits => ?bitXor,
    fun digits => ?add, fun digits => ?subtract, fun digits => ?shiftRight,
    fun digits => ?subtractFrom, fun digits => ?shiftLeft, fun bytes => ?addBytes⟩
  case move => exact sets_of_operation .move digits rfl
  case bitOr => exact sets_of_operation .bitOr digits rfl
  case bitAnd => exact sets_of_operation .bitAnd digits rfl
  case bitXor => exact sets_of_operation .bitXor digits rfl
  case add =>
    exact setsAndFlags_of_operation .add digits rfl (Operation.toNat_flag_le _)
      (Operation.add_balanced a b)
  case subtract =>
    exact setsAndFlags_of_operation .subtract digits rfl (Operation.toNat_flag_le _)
      (Operation.subtract_balanced a b)
  case shiftRight =>
    exact setsAndFlags_of_operation .shiftRight digits rfl (Operation.toNat_unit_le a)
      (Operation.shiftRight_balanced a b)
  case subtractFrom =>
    exact setsAndFlags_of_operation .subtractFrom digits rfl (Operation.toNat_flag_le _)
      (Operation.subtractFrom_balanced a b)
  case shiftLeft =>
    exact setsAndFlags_of_operation .shiftLeft digits rfl (Operation.toNat_top_le a)
      (Operation.shiftLeft_balanced a b)
  case addBytes =>
    intro after
    obtain ⟨opcode, added⟩ := execute_addByteWords state x bytes
    have added : after = _ := added
    refine ⟨?_, fun register other => ?_, ?_⟩
    · rw [added]
      simp only [Registers.get_set_self, UInt8.toNat_add, UInt8.toNat_ofNat']
      exact Nat.add_mod_mod _ _ _
    · rw [added]
      exact Registers.get_set_of_ne _ _ other
    · rw [added]

/-- The flag register is added to, and the flag stays. A register is subtracted from itself, and
changed by the flag register. Bytes are added to the flag register. -/
theorem arithmetic_exact_on_flag :
    let state := { fresh ⟨0, 0⟩ with registers := (Registers.zero.set 0xF 200).set 1 100 }
    let bytes : List (Fin 256) := [0x40, 0x50, 0x60]
    (0x8F14 : UInt16).toNat = 0x8000 + 0x100 * 0xF + 0x10 * 1 + 4 ∧
      (0x8115 : UInt16).toNat = 0x8000 + 0x100 * 1 + 0x10 * 1 + 5 ∧
      (0x81F3 : UInt16).toNat = 0x8000 + 0x100 * 1 + 0x10 * 0xF + 3 ∧
      (state.execute 0x8F14).registers.get 0xF = 1 ∧
      (state.execute 0x8115).registers.get 1 = 0 ∧
      (state.execute 0x8115).registers.get 0xF = 1 ∧
      (state.execute 0x81F3).registers.get 1 = 100 ^^^ 200 ∧
      (((bytes.map (addByteWord 0xF)).foldl execute state).registers.get 0xF).toNat =
        (200 + 0x40 + 0x50 + 0x60) % 256 := by
  intro state bytes
  have ofFlag : state.registers.get 0xF = 200 := by decide
  have ofOne : state.registers.get 1 = 100 := by decide
  have sum : (0x8F14 : UInt16).toNat = 0x8000 + 0x100 * 0xF + 0x10 * 1 + 4 := by decide
  have difference : (0x8115 : UInt16).toNat = 0x8000 + 0x100 * 1 + 0x10 * 1 + 5 := by decide
  have exclusive : (0x81F3 : UInt16).toNat = 0x8000 + 0x100 * 1 + 0x10 * 0xF + 3 := by decide
  obtain ⟨-, -, -, -, adds, -, -, -, -, addsBytes⟩ := arithmetic_exact state 0x8F14 0xF 1
  obtain ⟨-, -, -, -, -, subtracts, -⟩ := arithmetic_exact state 0x8115 1 1
  obtain ⟨-, -, -, sets, -⟩ := arithmetic_exact state 0x81F3 1 0xF
  obtain ⟨result, carry, bit, added, afterSum⟩ := adds sum
  obtain ⟨zero, noBorrow, bit', subtracted, afterDifference⟩ := subtracts difference
  have afterXor : state.execute 0x81F3 = _ := sets exclusive
  have carries : carry = 1 := by
    rw [ofFlag, ofOne] at added
    have bound := result.toNat_lt
    exact UInt8.toNat_inj.mp (by simp only [UInt8.reduceToNat] at added ⊢; omega)
  have leaves : zero = 0 ∧ noBorrow = 1 := by
    have bound := zero.toNat_lt
    exact ⟨UInt8.toNat_inj.mp (by simp only [UInt8.reduceToNat]; omega),
      UInt8.toNat_inj.mp (by simp only [UInt8.reduceToNat]; omega)⟩
  refine ⟨sum, difference, exclusive, ?_, ?_, ?_, ?_, ?_⟩
  · rw [afterSum, ← carries]
    exact Registers.get_set_self _ _ _
  · rw [afterDifference, leaves.1, Registers.get_set_of_ne _ _ (by decide)]
    exact Registers.get_set_self _ _ _
  · rw [afterDifference, leaves.2]
    exact Registers.get_set_self _ _ _
  · rw [afterXor, Registers.get_set_self, ofFlag, ofOne]
  · rw [(addsBytes bytes).1, ofFlag]
    decide

end State

end Chip8
