import Chip8.Proofs.CycleCases
import Chip8.Proofs.Histories
import Chip8.Proofs.StackContents

/-!
# Calls and returns nest

A cycle keeps the call stack, pushes a return address, or pops one in a return that goes there
(`State.StackTurn`); nothing that a host does touches it. So what a stack holds can only be lost
from its end: a machine whose stack holds some addresses, with more on top or not, goes on to do so
until a return takes the last of them (`above_serve`). `call_nests` applies this twice to a call, to
the addresses below the call and to these with the return address of the call.
-/

namespace Chip8.State

/-! ## What a cycle does to the stack -/

/-- The ways in which a cycle can treat the call stack. -/
inductive StackTurn (state : State) : Prop
  | kept (same : state.step.stack = state.stack)
  | pushed (free : state.stack.isFull = false)
      (longer : state.step.stack = state.stack.push (state.pc + 2))
  | popped (filled : state.stack.isEmpty = false) (returns : state.pendingWord? = some 0x00EE)
      (shorter : state.step.stack = state.stack.pop.1) (back : state.step.pc = state.stack.pop.2)

theorem stackTurn (state : State) : state.StackTurn := by
  cases state.cycleCases with
  | stopped _ same => exact .kept (by rw [same])
  | pressed _ _ _ _ resolved => exact .kept (by rw [resolved])
  | unpressed _ _ _ looked => exact .kept (by rw [looked])
  | outside _ _ _ halts => exact .kept (by rw [halts])
  | blocked _ _ _ halts => exact .kept (by rw [halts])
  | executed form pending found safe runs =>
    have stack := form.stack_effect (Operands.ofWord state.fetch)
      { state with opcode := state.fetch }
    rw [← runs] at stack
    split at stack
    · have digits := (Form.covers_iff_toNat .ret _).mp (Form.covers_of_ofWord? found)
      have word : state.fetch = 0x00EE := UInt16.toNat_inj.mp digits
      refine .popped (by simpa [Form.hazard?] using safe) (word ▸ pending) stack ?_
      rw [runs, Form.pc_effect, Form.target]
    · exact .pushed (by simpa [Form.hazard?] using safe) stack
    · exact .kept stack

theorem stack_of_hostChange {before after : State} (change : before.HostChange after) :
    after.stack = before.stack := by
  obtain ⟨memory, delayTimer, soundTimer, beep, keypad, dirty, rfl⟩ := change
  rfl

/-- One request that runs a cycle at most moves the stack pointer by one at most. -/
theorem pointer_serve_near (state : State) {request : Request} (single : request.isSingle = true) :
    (state.serve request).1.stack.pointer.toInt ≤ state.stack.pointer.toInt + 1 ∧
      state.stack.pointer.toInt ≤ (state.serve request).1.stack.pointer.toInt + 1 := by
  rcases Request.step_or_isHost single with rfl | host
  · change state.step.stack.pointer.toInt ≤ _ ∧ _ ≤ state.step.stack.pointer.toInt + 1
    cases state.stackTurn with
    | kept same =>
      rw [same]
      omega
    | pushed free longer =>
      have room : ¬ 16 ≤ state.stack.pointer.toInt := by simp [← CallStack.isFull_iff, free]
      have up := CallStack.toInt_pointer_push state.stack (state.pc + 2) (by omega)
      rw [longer, up]
      omega
    | popped filled _ shorter _ =>
      have some : ¬ state.stack.pointer.toInt ≤ 0 := by simp [← CallStack.isEmpty_iff, filled]
      have down := CallStack.toInt_pointer_pop state.stack (by omega)
      rw [shorter, down]
      omega
  · rw [stack_of_hostChange (hostChange_serve state host)]
    omega

/-! ## What stays on the stack -/

/-- The stack holds the addresses of a base, and possibly more on top of them. -/
def Above (base : List UInt16) (state : State) : Prop :=
  ∃ inner, state.stack.Holds (base ++ inner)

/-- A request leads back below a base: it is a cycle that executes a return, which takes the last
address of the base and goes there. -/
def Returns (base : List UInt16) (state : State) (request : Request) : Prop :=
  ∃ older last, base = older ++ [last] ∧ request = .step ∧ state.pendingWord? = some 0x00EE ∧
    state.step.stack.Holds older ∧ state.step.pc = last

variable {base : List UInt16} {state : State}

theorem above_step (above : state.Above base) :
    state.step.Above base ∨ state.Returns base .step := by
  obtain ⟨inner, holds⟩ := above
  cases state.stackTurn with
  | kept same => exact .inl ⟨inner, same ▸ holds⟩
  | pushed free longer =>
    have length := holds.length_le
    have room : ¬ (base ++ inner).length = 16 := by
      rw [← holds.isFull_iff, free]
      decide
    refine .inl ⟨inner ++ [state.pc + 2], ?_⟩
    rw [longer, ← List.append_assoc]
    exact holds.push (by omega) _
  | popped filled returns shorter back =>
    rcases List.eq_nil_or_concat inner with rfl | ⟨rest, last, rfl⟩
    · rw [List.append_nil] at holds
      obtain ⟨older, last, rfl⟩ := holds.exists_last filled
      exact .inr ⟨older, last, rfl, rfl, returns, shorter ▸ holds.pop.1, back.trans holds.pop.2⟩
    · rw [List.concat_eq_append, ← List.append_assoc] at holds
      exact .inl ⟨rest, shorter ▸ holds.pop.1⟩

/-- One request that runs a cycle at most leaves the base alone or returns from it. -/
theorem above_serve {request : Request} (single : request.isSingle = true)
    (above : state.Above base) :
    (state.serve request).1.Above base ∨ state.Returns base request := by
  rcases Request.step_or_isHost single with rfl | host
  · exact above_step above
  · obtain ⟨inner, holds⟩ := above
    have same := stack_of_hostChange (hostChange_serve state host)
    exact .inl ⟨inner, same ▸ holds⟩

/-- The depth right below a base is where a return from it leads. -/
theorem pointer_of_returns {request : Request} (returns : state.Returns base request) :
    (state.serve request).1.stack.pointer.toInt + 1 = base.length := by
  obtain ⟨older, last, rfl, rfl, -, holds, -⟩ := returns
  have here := holds.pointer_eq
  simp only [serve, List.length_append, List.length_singleton]
  omega

/-- As long as the depth right below a base does not occur, the base stays. -/
theorem above_after {history : List Request} (single : ∀ request ∈ history, request.isSingle = true)
    (above : state.Above base)
    (deep : ∀ count ≤ history.length,
      (state.after (history.take count)).stack.pointer.toInt + 1 ≠ base.length) :
    (state.after history).Above base := by
  induction history generalizing state with
  | nil => exact above
  | cons request rest ih =>
    have first : (state.serve request).1.Above base := by
      rcases above_serve (single request List.mem_cons_self) above with still | returns
      · exact still
      · exact absurd (pointer_of_returns returns) (deep 1 (by simp))
    refine ih (fun later among => single later (List.mem_cons_of_mem _ among)) first ?_
    intro count inside
    exact deep (count + 1) (Nat.succ_le_succ inside)

/-- Where a base lies on the stack, it is what it was when the stack held no more. -/
theorem slots_of_above {before : State} (holds : before.stack.Holds base)
    (above : state.Above base) {slot : Nat} (inside : slot < 16) (below : slot < base.length) :
    state.stack.slots[slot] = before.stack.slots[slot] := by
  obtain ⟨inner, more⟩ := above
  rw [more.slot_eq slot inside, holds.slot_eq slot inside, List.getElem?_append_left below]

/-! ## A call and its return -/

/-- The state after so many requests of a history. -/
def afterFirst (state : State) (history : List Request) (count : Nat) : State :=
  state.after (history.take count)

theorem afterFirst_succ {history : List Request} {count : Nat} (inside : count < history.length) :
    state.afterFirst history (count + 1) =
      ((state.afterFirst history count).serve history[count]).1 := by
  rw [afterFirst, List.take_succ_eq_append_getElem inside, after_concat]
  rfl

/-- `above_after`, for the first requests of a history. -/
theorem above_afterFirst {history : List Request}
    (single : ∀ request ∈ history, request.isSingle = true) (above : state.Above base)
    {count : Nat} (deep : ∀ earlier ≤ count,
      (state.afterFirst history earlier).stack.pointer.toInt + 1 ≠ base.length) :
    (state.afterFirst history count).Above base := by
  refine above_after (fun request among => single request (List.mem_of_mem_take among)) above ?_
  intro earlier inside
  rw [List.length_take] at inside
  have shorter : (history.take count).take earlier = history.take earlier := by
    rw [List.take_take, Nat.min_eq_left (by omega)]
  rw [shorter]
  exact deep earlier (by omega)

/-- A call stores the address behind it on top of what the stack holds. -/
theorem holds_step_of_call {addresses : List UInt16} (holds : state.stack.Holds addresses)
    (room : addresses.length < 16) (pending : state.pendingWord? = some state.fetch)
    {nnn : Fin 4096} (calls : state.fetch.toNat = 0x2000 + nnn) :
    state.step.stack.Holds (addresses ++ [state.pc + 2]) := by
  have shape : state.fetch.toNat =
      Form.call.row.pattern.toNat + Form.call.free (Operands.ofWord state.fetch) := by
    simp only [Form.row, Form.free, UInt16.reduceToNat, Operands.val_nnn_ofWord]
    omega
  have free : state.stack.isFull = false := by
    rw [Bool.eq_false_iff, ne_eq, holds.isFull_iff]
    omega
  have safe : Form.call.hazard? (Operands.ofWord state.fetch) state = none := by
    simp [Form.hazard?, free]
  rw [step_of_pendingWord? pending, execute_of_digits .call (by decide) shape safe,
    Form.stack_effect]
  exact holds.push room _

/-- The first return to the depth of a call comes from a return instruction, leads behind the call
and leaves the stack as the call found it. -/
theorem first_return {saved : List UInt16} {back : UInt16} {history : List Request}
    (single : ∀ request ∈ history, request.isSingle = true)
    (holds : state.stack.Holds (saved ++ [back])) {count : Nat} (inside : count < history.length)
    (deep : ∀ earlier ≤ count,
      (state.afterFirst history earlier).stack.pointer.toInt ≠ saved.length)
    (returned : (state.afterFirst history (count + 1)).stack.pointer.toInt = saved.length) :
    (state.afterFirst history (count + 1)).stack.Holds saved ∧
      (state.afterFirst history (count + 1)).pc = back ∧ history[count] = .step ∧
      (state.afterFirst history count).pendingWord? = some 0x00EE := by
  -- with its return address the call stays on the stack up to the last request
  have above : (state.afterFirst history count).Above (saved ++ [back]) := by
    refine above_afterFirst single ⟨[], by rwa [List.append_nil]⟩ fun earlier near => ?_
    have other := deep earlier near
    simp only [List.length_append, List.length_singleton]
    omega
  rw [afterFirst_succ inside] at returned ⊢
  rcases above_serve (single _ (List.getElem_mem inside)) above with ⟨inner, still⟩ | returns
  · have here := still.pointer_eq
    simp only [List.length_append, List.length_singleton] at here
    omega
  · obtain ⟨older, last, same, request, pending, left, there⟩ := returns
    obtain ⟨rfl, rfl⟩ := List.append_singleton_inj.mp same
    rw [request]
    exact ⟨left, there, rfl, pending⟩

/-- A history has not been at a depth since its first request, up to a count of requests. -/
def Away (state : State) (history : List Request) (depth count : Nat) : Prop :=
  ∀ earlier, 1 ≤ earlier → earlier < count →
    (state.afterFirst history earlier).stack.pointer.toInt ≠ depth

/-- A history that begins with a call is not below the depth of the call before it has been there:
one request takes away one address at most. -/
theorem le_depth_of_away {history : List Request} {depth : Nat}
    (single : ∀ request ∈ history, request.isSingle = true)
    (here : state.stack.pointer.toInt = depth)
    (called : (state.afterFirst history 1).stack.pointer.toInt = depth + 1)
    {count : Nat} (inside : count ≤ history.length) (away : state.Away history depth count) :
    depth ≤ (state.afterFirst history count).stack.pointer.toInt := by
  induction count with
  | zero => exact Int.le_of_eq here.symm
  | succ count ih =>
    rcases Nat.eq_zero_or_pos count with rfl | behind
    · rw [Nat.zero_add, called]
      omega
    · have still := ih (by omega) fun earlier first before => away earlier first (by omega)
      have other := away count behind (by omega)
      have near := pointer_serve_near (state.afterFirst history count)
        (single _ (List.getElem_mem inside))
      rw [afterFirst_succ inside]
      omega

/-- **Calls and returns nest.** A machine calls a subroutine from depth `depth` and then runs
cycles, with anything a host may do in between. The first time that it is back at the depth of the
call, it has just executed a return, goes on behind the call, and has the stack as it was. Each
request moves the stack pointer by one at most. Up to the return the depth does not fall below that
of the call, and as long as it does not, the addresses below stay what they were. -/
theorem call_nests {state : State} {depth : Nat} {nnn : Fin 4096} (running : state.fault = none)
    (awake : state.waiting = false) (near : state.pc ≤ 0xFFE)
    (here : state.stack.pointer.toInt = depth) (room : depth < 16)
    (clear : ∀ (slot : Nat) (inside : slot < 16), depth ≤ slot → state.stack.slots[slot] = 0)
    (calls : state.fetch.toNat = 0x2000 + nnn) {later : List Request}
    (single : ∀ request ∈ later, request.isSingle = true) :
    let history := Request.step :: later
    let depthAfter := fun count => (state.afterFirst history count).stack.pointer.toInt
    depthAfter 1 = depth + 1 ∧
    (∀ count, 1 < count → count ≤ history.length → state.Away history depth count →
      depthAfter count = depth →
      (state.afterFirst history count).pc.toNat = state.pc.toNat + 2 ∧
      (state.afterFirst history count).stack.slots = state.stack.slots ∧
      history[count - 1]? = some .step ∧
      (state.afterFirst history (count - 1)).pendingWord? = some 0x00EE) ∧
    (∀ count < history.length, depthAfter (count + 1) ≤ depthAfter count + 1 ∧
      depthAfter count ≤ depthAfter (count + 1) + 1) ∧
    (∀ count ≤ history.length, state.Away history depth count → depth ≤ depthAfter count) ∧
    (∀ count ≤ history.length, (∀ earlier ≤ count, depth ≤ depthAfter earlier) →
      ∀ (slot : Nat) (inside : slot < 16), slot < depth →
        (state.afterFirst history count).stack.slots[slot] = state.stack.slots[slot]) := by
  intro history depthAfter
  have all : ∀ request ∈ history, request.isSingle = true := by
    intro request among
    rcases List.mem_cons.mp among with rfl | rest
    · rfl
    · exact single request rest
  have bound : state.pc.toNat ≤ 0xFFE := UInt16.le_iff_toNat_le.mp near
  have pending := pendingWord?_eq_fetch_iff.mpr ⟨running, awake, near⟩
  obtain ⟨saved, rfl, holds⟩ := CallStack.exists_holds here (Nat.le_of_lt room) clear
  have stored := holds_step_of_call holds room pending calls
  have called : depthAfter 1 = saved.length + 1 := by
    have top := stored.pointer_eq
    rw [List.length_append] at top
    exact top
  refine ⟨called, ?returned, ?near, ?deep, ?below⟩
  case returned =>
    intro count behind inside away returned
    -- the first request is the call itself, and `first_return` counts from the state behind it
    obtain ⟨count, rfl⟩ : ∃ before, count = before + 2 := ⟨count - 2, by omega⟩
    have within : count + 1 ≤ later.length := by simpa [history] using inside
    have deep : ∀ earlier ≤ count,
        (state.step.afterFirst later earlier).stack.pointer.toInt ≠ saved.length :=
      fun earlier before => away (earlier + 1) (by omega) (by omega)
    obtain ⟨left, there, request, executed⟩ := first_return single stored within deep returned
    refine ⟨?_, congrArg CallStack.slots (left.unique holds), ?_, executed⟩
    · change (state.step.afterFirst later (count + 1)).pc.toNat = _
      rw [there]
      exact toNat_pc_add (by omega) (by decide)
    · change later[count]? = some .step
      rw [List.getElem?_eq_getElem within, request]
  case near =>
    intro count inside
    simp only [depthAfter, afterFirst_succ inside]
    exact pointer_serve_near _ (all _ (List.getElem_mem inside))
  case deep =>
    intro count inside away
    exact le_depth_of_away all here called inside away
  case below =>
    intro count _ deep slot inside below
    refine slots_of_above holds (above_afterFirst all ⟨[], by rwa [List.append_nil]⟩ ?_) inside below
    intro earlier before
    have high := deep earlier before
    change (saved.length : Int) ≤ (state.afterFirst history earlier).stack.pointer.toInt at high
    omega

/-- A call from inside a call, with a call and a return of its own before it returns. -/
theorem call_nests_inside_call :
    let program := [0x20, 0x02, 0x20, 0x06, 0, 0, 0x20, 0x0A, 0x00, 0xEE, 0x00, 0xEE]
    let state := { fresh ⟨0, 0⟩ with memory := Memory.zero.writeAll 0 program, pc := 0 }.step
    let later := [.step, .tick, .step, .takeFrame, .step]
    state.stack.pointer.toInt = 1 ∧
      (state.afterFirst (.step :: later) 6).pc.toNat = state.pc.toNat + 2 ∧
      (state.afterFirst (.step :: later) 6).stack.slots = state.stack.slots := by
  intro program state later
  have depth : state.stack.pointer.toInt = (1 : Nat) := by decide +kernel
  have clear : ∀ (slot : Nat) (inside : slot < 16), 1 ≤ slot → state.stack.slots[slot] = 0 := by
    decide +kernel
  have calls : state.fetch.toNat = 0x2000 + (6 : Fin 4096) := by decide +kernel
  have returned : (state.afterFirst (.step :: later) 6).stack.pointer.toInt = (1 : Nat) := by
    decide +kernel
  have deep : ∀ earlier < 6, 1 ≤ earlier →
      (state.afterFirst (.step :: later) earlier).stack.pointer.toInt ≠ (1 : Nat) := by
    decide +kernel
  obtain ⟨-, first, -, -, -⟩ := @call_nests state 1 6 (by decide +kernel) (by decide +kernel)
    (by decide +kernel) depth (by decide) clear calls later (by decide)
  obtain ⟨there, same, -, -⟩ := first 6 (by decide) (by decide)
    (fun earlier from_one before => deep earlier before from_one) returned
  exact ⟨depth, there, same⟩

end Chip8.State
