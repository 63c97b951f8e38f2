import Chip8.Proofs.Reachable

/-!
# Accesses that name no place

Memory, registers, call stack and keypad are reached by numbers. A number may name no place there:
then a read takes the nearest place or counts from the end, and a write is lost. `Access` makes the
way to the places a parameter, and `Access.step` is the cycle with this parameter. With `clamping`
it is the cycle of the machine, in every state. With `checked`, which fails where a number names no
place, it is the same cycle in every state that a machine can get into: what a cycle leaves behind
never comes from such a number. `step_eq` shows both from what the two ways have in common.
-/

namespace Chip8

/-- How the places of memory, registers, call stack and keypad are reached by their numbers. -/
structure Access (m : Type → Type) where
  readMemory (memory : Memory) (address : Nat) : m UInt8
  writeMemory (memory : Memory) (address : Nat) (value : UInt8) : m Memory
  readRegister (registers : Registers) (number : Nat) : m UInt8
  writeRegister (registers : Registers) (number : Nat) (value : UInt8) : m Registers
  readSlot (stack : CallStack) (index : Int) : m UInt16
  writeSlot (stack : CallStack) (index : Int) (address : UInt16) : m CallStack
  readKey (keypad : Keypad) (number : Nat) : m Bool

namespace Access

/-- The way of the machine: no access fails. -/
def clamping : Access Id where
  readMemory memory address := memory.read address
  writeMemory memory address value := memory.write address value
  readRegister registers number := registers.get ⟨min number 15, by omega⟩
  writeRegister registers number value := registers.setNumber number value
  readSlot stack index := stack.read index
  writeSlot stack index address := stack.write index address
  readKey keypad number := keypad.held ⟨min number 15, by omega⟩

/-- The strict way: an access fails if its number names no place. -/
def checked : Access Option where
  readMemory memory address := memory.bytes[address]?
  writeMemory memory address value :=
    if inside : address < 4096 then some ⟨memory.bytes.set address value inside⟩ else none
  readRegister registers number := registers.values[number]?
  writeRegister registers number value :=
    if inside : number < 16 then some ⟨registers.values.set number value inside⟩ else none
  readSlot stack index := if 0 ≤ index then stack.slots[index.toNat]? else none
  writeSlot stack index address :=
    if inside : 0 ≤ index ∧ index < 16 then
      some { stack with slots := stack.slots.set index.toNat address (by omega) }
    else none
  readKey keypad number := keypad.keys[number]?

/-! ## The cycle with its accesses as a parameter -/

section Cycle

variable {m : Type → Type} [Monad m] (access : Access m)

def register (state : State) (register : Fin 16) : m UInt8 :=
  access.readRegister state.registers register

def setRegister (state : State) (register : Fin 16) (value : UInt8) : m State := do
  let registers ← access.writeRegister state.registers register value
  return { state with registers }

def push (stack : CallStack) (address : UInt16) : m CallStack := do
  let stored ← access.writeSlot stack stack.pointer.toInt address
  return { stored with pointer := stack.pointer + 1 }

def pop (stack : CallStack) : m (CallStack × UInt16) := do
  let last := stack.pointer - 1
  let address ← access.readSlot stack last.toInt
  let cleared ← access.writeSlot stack last.toInt 0
  return ({ cleared with pointer := last }, address)

def writeAll (memory : Memory) (address : Nat) : List UInt8 → m Memory
  | [] => return memory
  | value :: rest => do
    let written ← access.writeMemory memory address value
    writeAll written (address + 1) rest

/-- A pixel of a sprite. Only where the sprite lies, a byte is read. -/
def lights (memory : Memory) (index height left top : Nat) (x : Fin 64) (y : Fin 32) : m Bool :=
  let column := Sprite.offset 64 left x
  let row := Sprite.offset 32 top y
  if column < 8 && row < height then do
    let byte ← access.readMemory memory (index + row)
    return byte.toNat.testBit (7 - column)
  else return false

theorem column_lt (cell : Fin 2048) : cell.val % 64 < 64 := by omega

theorem row_lt (cell : Fin 2048) : cell.val / 64 < 32 := by omega

def mask (memory : Memory) (index height left top : Nat) : m Screen := do
  let cells ← Vector.ofFnM fun cell : Fin 2048 =>
    access.lights memory index height left top ⟨cell % 64, column_lt cell⟩ ⟨cell / 64, row_lt cell⟩
  return ⟨cells⟩

/-- Why an instruction may not run, if so. Of the stores this looks at registers only. -/
def hazard? (form : Form) (operands : Operands) (state : State) : m (Option Fault) :=
  match form with
  | .skipPressed | .skipReleased => do
    let number ← access.register state operands.x
    return if 15 < number then some .keypad else none
  | _ => return form.hazard? operands state

def combine (operation : Operation) (operands : Operands) (state : State) : m State := do
  let a ← access.register state operands.x
  let b ← access.register state operands.y
  let written ← access.setRegister state operands.x (operation.result a b)
  match operation.flag? a b with
  | some value => return (← access.setRegister written Layout.flagRegister value).next
  | none => return written.next

def keyHeld (state : State) (register : Fin 16) : m Bool := do
  let number ← access.register state register
  access.readKey state.keypad (number.toNat % 16)

def drawSprite (operands : Operands) (state : State) : m State := do
  let left ← access.register state operands.x
  let top ← access.register state operands.y
  let sprite ← access.mask state.memory state.index.toNat operands.n left.toNat top.toNat
  let collision := state.screen.overlaps sprite
  let drawn := { state with screen := state.screen.flip sprite, dirty := true }
  return (← access.setRegister drawn Layout.flagRegister (flag collision)).next

def registersUpTo (state : State) (last : Fin 16) : m (List UInt8) :=
  ((List.finRange 16).filter (· ≤ last)).mapM fun register => access.register state register

/-- The registers with those up to `last` replaced. Only for these, a byte is read. -/
def registersFromMemory (state : State) (last : Fin 16) : m Registers := do
  let values ← Vector.ofFnM fun register : Fin 16 =>
    if register ≤ last then access.readMemory state.memory (state.index.toNat + register)
    else return state.registers.get register
  return ⟨values⟩

/-- What an instruction does when it may run. -/
def effect (form : Form) (operands : Operands) (state : State) : m State :=
  let vx := access.register state operands.x
  let vy := access.register state operands.y
  match form with
  | .clearScreen => return { state with screen := Screen.blank, dirty := true }.next
  | .ret => return (← access.pop state.stack) |> fun (stack, pc) => { state with stack, pc }
  | .machineCall => return state.next
  | .jump => return { state with pc := operands.address }
  | .call => return { state with
      stack := ← access.push state.stack (state.pc + 2), pc := operands.address }
  | .skipEqualByte => return state.skipIf ((← vx) == operands.byte)
  | .skipUnequalByte => return state.skipIf ((← vx) != operands.byte)
  | .skipEqual => return state.skipIf ((← vx) == (← vy))
  | .setByte => return (← access.setRegister state operands.x operands.byte).next
  | .addByte => return (← access.setRegister state operands.x ((← vx) + operands.byte)).next
  | .move => access.combine .move operands state
  | .bitOr => access.combine .bitOr operands state
  | .bitAnd => access.combine .bitAnd operands state
  | .bitXor => access.combine .bitXor operands state
  | .add => access.combine .add operands state
  | .subtract => access.combine .subtract operands state
  | .shiftRight => access.combine .shiftRight operands state
  | .subtractFrom => access.combine .subtractFrom operands state
  | .shiftLeft => access.combine .shiftLeft operands state
  | .skipUnequal => return state.skipIf ((← vx) != (← vy))
  | .setIndex => return { state with index := operands.address }.next
  | .jumpOffset => return { state with
      pc := operands.address + (← access.register state 0).toUInt16 }
  | .random =>
    return (← access.setRegister { state with random := Random.next state.random } operands.x
      (Random.byte state.random &&& operands.byte)).next
  | .draw => access.drawSprite operands state
  | .skipPressed => return state.skipIf (← access.keyHeld state operands.x)
  | .skipReleased => return state.skipIf (!(← access.keyHeld state operands.x))
  | .readDelay => return (← access.setRegister state operands.x state.delayTimer).next
  | .awaitKey => return { state with
      waiting := true, keyRegister := UInt8.ofNat operands.x, latch := state.keypad }
  | .setDelay => return { state with delayTimer := ← vx }.next
  | .setSound => return { state with soundTimer := ← vx }.next
  | .addIndex => return { state with index := state.index + (← vx).toUInt16 }.next
  | .digitSprite => return { state with index := 0x50 + (← vx).toUInt16 * 5 }.next
  | .storeDecimal => return { state with
      memory := ← access.writeAll state.memory state.index.toNat (Form.decimalDigits (← vx)) }.next
  | .storeRegisters => return { state with
      memory := ← access.writeAll state.memory state.index.toNat
        (← access.registersUpTo state operands.x) }.next
  | .loadRegisters => return { state with
      registers := ← access.registersFromMemory state operands.x }.next

def perform (form : Form) (operands : Operands) (state : State) : m State := do
  match ← access.hazard? form operands state with
  | some fault => return state.halt fault
  | none => access.effect form operands state

def execute (state : State) (word : UInt16) : m State :=
  let marked := { state with opcode := word }
  match Form.ofWord? word with
  | some form => access.perform form (Operands.ofWord word) marked
  | none => return marked.halt .unknownInstruction

def fetch (state : State) : m UInt16 := do
  let high ← access.readMemory state.memory state.pc.toNat
  let low ← access.readMemory state.memory (state.pc + 1).toNat
  return high.toUInt16 <<< 8 ||| low.toUInt16

def poll (state : State) : m State :=
  match state.keypad.firstNewPress? state.latch with
  | some key => return { state with
      registers := ← access.writeRegister state.registers state.keyRegister.toNat (UInt8.ofNat key)
      waiting := false }.next
  | none => return { state with latch := state.keypad }

def fetchAndExecute (state : State) : m State := do
  if state.canFetch then access.execute state (← access.fetch state)
  else return state.halt .address

/-- One cycle. -/
def step (state : State) : m State :=
  if state.halted then return state
  else if state.waiting then access.poll state
  else access.fetchAndExecute state

end Cycle

/-- An access that may run stays in memory. -/
theorem fits_of_reach? {state : State} {count : Nat} (safe : Form.reach? state count = none) :
    state.index.toNat + count ≤ 4096 := by
  rw [Form.reach?, ite_eq_right_iff] at safe
  by_cases past : 4096 < state.index.toNat + count
  · exact absurd (safe past) (by simp)
  · omega

/-! ## What two ways have in common -/

variable {m : Type → Type} [Monad m]

/-- Where a number names a place, the way reaches that place and does not fail. -/
structure Exact (access : Access m) : Prop where
  readMemory (memory : Memory) {address : Nat} (inside : address < 4096) :
    access.readMemory memory address = pure (memory.read address)
  writeMemory (memory : Memory) {address : Nat} (value : UInt8) (inside : address < 4096) :
    access.writeMemory memory address value = pure (memory.write address value)
  readRegister (registers : Registers) (register : Fin 16) :
    access.readRegister registers register = pure (registers.get register)
  writeRegister (registers : Registers) (register : Fin 16) (value : UInt8) :
    access.writeRegister registers register value = pure (registers.set register value)
  readKey (keypad : Keypad) (key : Fin 16) :
    access.readKey keypad key = pure (keypad.held key)

/-- The numbers that a state itself holds, its stack pointer and the register of a wait, are good
for the way: where a call, a return or a key uses them, it does what the machine does. -/
structure Suits (access : Access m) (state : State) : Prop where
  push (free : state.stack.isFull = false) (address : UInt16) :
    access.push state.stack address = pure (state.stack.push address)
  pop (filled : state.stack.isEmpty = false) : access.pop state.stack = pure state.stack.pop
  keyRegister (value : UInt8) :
    access.writeRegister state.registers state.keyRegister.toNat value =
      pure (state.registers.setNumber state.keyRegister.toNat value)

theorem Suits.poll_eq [LawfulMonad m] {access : Access m} {state : State}
    (suits : access.Suits state) :
    access.poll state = pure state.poll := by
  cases pressed : state.keypad.firstNewPress? state.latch with
  | some key => simp only [poll, State.poll, pressed, suits.keyRegister, pure_bind]
  | none => simp only [poll, State.poll, pressed]

namespace Exact

variable {access : Access m} (exact : access.Exact)

include exact

theorem register_eq (state : State) (register : Fin 16) :
    access.register state register = pure (state.registers.get register) :=
  exact.readRegister _ _

variable [LawfulMonad m]

theorem setRegister_eq (state : State) (register : Fin 16) (value : UInt8) :
    access.setRegister state register value = pure (state.setRegister register value) := by
  simp only [setRegister, exact.writeRegister, pure_bind, State.setRegister]

theorem writeAll_eq (memory : Memory) (address : Nat) (values : List UInt8)
    (fits : address + values.length ≤ 4096) :
    access.writeAll memory address values = pure (memory.writeAll address values) := by
  induction values generalizing memory address with
  | nil => rfl
  | cons value rest ih =>
    rw [List.length_cons] at fits
    rw [writeAll, exact.writeMemory memory value (by omega), pure_bind, ih _ _ (by omega)]
    rfl

/-- A sprite that lies in memory is read without leaving it. -/
theorem mask_eq (memory : Memory) {index height : Nat} (fits : index + height ≤ 4096)
    (left top : Nat) :
    access.mask memory index height left top = pure (Sprite.mask memory index height left top) := by
  have pixel : ∀ x y, access.lights memory index height left top x y =
      pure (Sprite.lights memory index height left top x y) := by
    intro x y
    simp only [lights, Sprite.lights]
    split
    · next inside =>
      simp only [Bool.and_eq_true, decide_eq_true_eq] at inside
      rw [exact.readMemory memory (by omega), pure_bind]
      simp only [inside, decide_true, Bool.true_and]
    · next outside =>
      rw [Bool.not_eq_true] at outside
      rw [outside, Bool.false_and]
  simp only [mask, pixel, Vector.ofFnM_pure, pure_bind]
  rfl

theorem combine_eq (operation : Operation) (operands : Operands) (state : State) :
    access.combine operation operands state = pure (Form.combine operation operands state) := by
  cases told : operation.flag? (state.registers.get operands.x)
    (state.registers.get operands.y) with
  | none | some value =>
    simp only [combine, Form.combine, told, exact.register_eq, exact.setRegister_eq, pure_bind]

theorem keyHeld_eq (state : State) (register : Fin 16) :
    access.keyHeld state register = pure (Form.keyHeld state register) := by
  rw [keyHeld, exact.register_eq, pure_bind]
  exact exact.readKey _ ⟨_, _⟩

theorem drawSprite_eq (operands : Operands) {state : State}
    (fits : state.index.toNat + operands.n ≤ 4096) :
    access.drawSprite operands state = pure (Form.drawSprite operands state) := by
  simp only [drawSprite, exact.register_eq, exact.mask_eq _ fits, exact.setRegister_eq, pure_bind]
  rfl

theorem registersUpTo_eq (state : State) (last : Fin 16) :
    access.registersUpTo state last = pure (Form.registersUpTo state last) := by
  simp only [registersUpTo, exact.register_eq, List.mapM_pure, Form.registersUpTo]
  rw [← List.filterMap_eq_map, List.filterMap_filter]
  simp only [decide_eq_true_eq, Function.comp_apply]

theorem registersFromMemory_eq {state : State} {last : Fin 16}
    (fits : state.index.toNat + (last + 1) ≤ 4096) :
    access.registersFromMemory state last = pure (Form.registersFromMemory state last) := by
  have byte : ∀ register : Fin 16,
      (if register ≤ last then access.readMemory state.memory (state.index.toNat + register)
        else pure (state.registers.get register)) =
      pure (if register ≤ last then state.memory.read (state.index.toNat + register)
        else state.registers.get register) := by
    intro register
    split
    · exact exact.readMemory _ (by omega)
    · rfl
  simp only [registersFromMemory, byte, Vector.ofFnM_pure, pure_bind]
  rfl

theorem hazard?_eq (form : Form) (operands : Operands) (state : State) :
    access.hazard? form operands state = pure (form.hazard? operands state) := by
  cases form with
  | skipPressed | skipReleased => simp only [hazard?, exact.register_eq, pure_bind]; rfl
  | _ => rfl

/-- An instruction that may run has only good numbers to use. -/
theorem effect_eq (form : Form) (operands : Operands) {state : State} (suits : access.Suits state)
    (safe : form.hazard? operands state = none) :
    access.effect form operands state = pure (form.effect operands state) := by
  cases form with
  | ret =>
    have filled : state.stack.isEmpty = false := by simpa [Form.hazard?] using safe
    simp only [effect, suits.pop filled, pure_bind]
    rfl
  | call =>
    have free : state.stack.isFull = false := by simpa [Form.hazard?] using safe
    simp only [effect, suits.push free, pure_bind]
    rfl
  | move | bitOr | bitAnd | bitXor | add | subtract | shiftRight | subtractFrom | shiftLeft =>
    exact exact.combine_eq _ _ _
  | draw => exact exact.drawSprite_eq _ (fits_of_reach? safe)
  | storeDecimal =>
    have digits := exact.writeAll_eq state.memory state.index.toNat
      (Form.decimalDigits (state.registers.get operands.x)) (fits_of_reach? safe)
    simp only [effect, exact.register_eq, digits, pure_bind]
    rfl
  | storeRegisters =>
    have stored := exact.writeAll_eq state.memory state.index.toNat
      (Form.registersUpTo state operands.x)
      (by rw [Form.length_registersUpTo]; exact fits_of_reach? safe)
    simp only [effect, exact.registersUpTo_eq, stored, pure_bind]
    rfl
  | loadRegisters =>
    simp only [effect, exact.registersFromMemory_eq (fits_of_reach? safe), pure_bind]
    rfl
  | _ =>
    simp only [effect, exact.register_eq, exact.setRegister_eq, exact.keyHeld_eq, pure_bind]
    rfl

theorem perform_eq (form : Form) (operands : Operands) {state : State}
    (suits : access.Suits state) :
    access.perform form operands state = pure (form.perform operands state) := by
  rw [perform, exact.hazard?_eq, pure_bind]
  cases safe : form.hazard? operands state with
  | some fault => simp only [Form.perform, safe]
  | none => simpa only [Form.perform, safe] using exact.effect_eq form operands suits safe

theorem execute_eq {state : State} (suits : access.Suits state) (word : UInt16) :
    access.execute state word = pure (state.execute word) := by
  have marked : access.Suits { state with opcode := word } :=
    ⟨suits.push, suits.pop, suits.keyRegister⟩
  cases found : Form.ofWord? word with
  | none => simp only [execute, State.execute, found]
  | some form =>
    simp only [execute, State.execute, found]
    exact exact.perform_eq form _ marked

/-- Where a whole word lies at the program counter, both of its bytes lie in memory. -/
theorem fetch_eq {state : State} (near : state.pc ≤ 0xFFE) :
    access.fetch state = pure state.fetch := by
  have low : state.pc.toNat ≤ 0xFFE := UInt16.le_iff_toNat_le.mp near
  have second : (state.pc + 1).toNat = state.pc.toNat + 1 :=
    State.toNat_pc_add (by omega) (by decide)
  rw [fetch, exact.readMemory _ (by omega), pure_bind, exact.readMemory _ (by omega), pure_bind]
  rfl

theorem fetchAndExecute_eq {state : State} (suits : access.Suits state) :
    access.fetchAndExecute state = pure state.fetchAndExecute := by
  cases near : state.canFetch with
  | true =>
    have fetched := exact.fetch_eq (by simpa [State.canFetch] using near)
    simp only [fetchAndExecute, State.fetchAndExecute, near, if_true, fetched, pure_bind,
      exact.execute_eq suits]
  | false => simp [fetchAndExecute, State.fetchAndExecute, near]

/-- A cycle with an exact way is the cycle of the machine, in a state whose numbers suit the way. -/
theorem step_eq {state : State} (suits : access.Suits state) :
    access.step state = pure state.step := by
  rw [step, State.step, suits.poll_eq, exact.fetchAndExecute_eq suits]
  cases state.halted <;> cases state.waiting <;> rfl

end Exact

/-! ## The way of the machine -/

theorem exact_clamping : clamping.Exact where
  readMemory _ _ _ := rfl
  writeMemory _ _ _ _ := rfl
  readRegister registers register := by
    have nearest : min register.val 15 = register := by omega
    simp only [clamping, nearest]
    rfl
  writeRegister registers register value := registers.setNumber_of_lt value register.isLt
  readKey keypad key := by
    have nearest : min key.val 15 = key := by omega
    simp only [clamping, nearest]
    rfl

theorem suits_clamping (state : State) : clamping.Suits state where
  push _ _ := rfl
  pop _ := rfl
  keyRegister _ := rfl

/-! ## The strict way -/

theorem exact_checked : checked.Exact where
  readMemory memory address inside := by
    rw [memory.read_of_inside inside]
    exact Vector.getElem?_eq_getElem inside
  writeMemory memory address value inside := by
    simp only [checked, Memory.write, inside, dite_true]
    rfl
  readRegister registers register := Vector.getElem?_eq_getElem register.isLt
  writeRegister registers register value := by
    simp only [checked, register.isLt, dite_true]
    congr 1
    apply Registers.ext
    intro other
    rw [Registers.get_set]
    change (registers.values.set register value)[other] =
      if register = other then value else registers.values[other]
    simp [Vector.getElem_set, Fin.ext_iff]
  readKey keypad key := Vector.getElem?_eq_getElem key.isLt

theorem readSlot_checked (stack : CallStack) {index : Nat} (inside : index < 16) :
    checked.readSlot stack index = some (stack.read index) := by
  rw [stack.read_of_inside inside]
  simp [checked, inside]

theorem writeSlot_checked (stack : CallStack) {index : Nat} (address : UInt16)
    (inside : index < 16) :
    checked.writeSlot stack index address = some (stack.write index address) := by
  have named : 0 ≤ (index : Int) ∧ (index : Int) < 16 := by omega
  simp only [checked, named, and_self, dite_true, Int.toNat_natCast,
    stack.write_of_inside address inside]

/-- Between its ends a stack pointer suits the strict way, and so does the number of a register. -/
theorem suits_checked {state : State} (low : 0 ≤ state.stack.pointer.toInt)
    (high : state.stack.pointer.toInt ≤ 16) (register : state.keyRegister ≤ 15) :
    checked.Suits state where
  push free address := by
    have room : ¬ 16 ≤ state.stack.pointer.toInt := by simp [← CallStack.isFull_iff, free]
    obtain ⟨index, here⟩ := Int.eq_ofNat_of_zero_le low
    rw [push, here, writeSlot_checked _ _ (by omega), CallStack.push, here]
    rfl
  pop filled := by
    have some_address : ¬ state.stack.pointer.toInt ≤ 0 := by simp [← CallStack.isEmpty_iff, filled]
    have down := CallStack.toInt_pointer_pop state.stack (by omega)
    rw [CallStack.pointer_pop] at down
    have above : 0 ≤ (state.stack.pointer - 1).toInt := by omega
    obtain ⟨index, last⟩ := Int.eq_ofNat_of_zero_le above
    rw [pop, last, readSlot_checked _ (by omega), writeSlot_checked _ _ (by omega), CallStack.pop,
      last]
    rfl
  keyRegister value := by
    have bound := UInt8.le_iff_toNat_le.mp register
    have inside : state.keyRegister.toNat < 16 := by
      simp only [UInt8.reduceToNat] at bound
      omega
    rw [Registers.setNumber_of_lt _ _ inside]
    exact exact_checked.writeRegister state.registers ⟨_, inside⟩ value

/-- **Accesses name places.** The cycle with accesses as a parameter is the cycle of the machine if
no access fails. It is the same if an access fails that names no place, in every state whose stack
pointer and register of a wait name places; a cycle that raises a fault finds it before it uses the
numbers that lead outside. However cycles and requests of a host follow one another from a fresh
state, each cycle starts in such a state. -/
theorem checked_step :
    (∀ state : State, (clamping.step state).run = state.step) ∧
    (∀ state : State, 0 ≤ state.stack.pointer.toInt → state.stack.pointer.toInt ≤ 16 →
      state.keyRegister ≤ 15 → checked.step state = some state.step) ∧
    (∀ (random : Random.Pair) (history : List Request),
      (∀ request ∈ history, request.isOrdinary = true) →
      checked.step ((State.fresh random).after history) =
        some ((State.fresh random).after history).step) := by
  have strict : ∀ state : State, 0 ≤ state.stack.pointer.toInt →
      state.stack.pointer.toInt ≤ 16 → state.keyRegister ≤ 15 →
      checked.step state = some state.step :=
    fun state low high register => exact_checked.step_eq (suits_checked low high register)
  refine ⟨fun state => exact_clamping.step_eq (suits_clamping state), strict, ?_⟩
  intro random history ordinary
  have sound : ((State.fresh random).after history).Sound :=
    State.after_preserves State.sound_step State.sound_hostChange ordinary
      (State.sound_fresh random)
  obtain ⟨addresses, holds, -⟩ := sound.stack
  have length := holds.length_le
  have here := holds.pointer_eq
  exact strict _ (by omega) (by omega) sound.keyRegister_le

/-- A sprite whose last row is the last byte of memory is drawn without a read behind it. -/
theorem checked_step_at_end :
    let state := { (State.fresh ⟨0, 0⟩).after [.loadProgram [0xD0, 0x1F]] with index := 4081 }
    state.fetch = 0xD01F ∧ state.step.fault = none ∧ checked.step state = some state.step := by
  intro state
  exact ⟨by decide +kernel, by decide +kernel,
    checked_step.2.1 state (by decide +kernel) (by decide +kernel) (by decide +kernel)⟩

/-- The pointers between which no access fails are the least and the greatest: an empty stack has no
address to take out, and a full one no slot to store one in. -/
example : checked.pop CallStack.empty = none ∧
    checked.push { CallStack.empty with pointer := 16 } 0x200 = none := by decide

end Access

end Chip8
