import Chip8.Execute

/-!
# Cycles

A cycle of a machine that runs fetches the word at the program counter and executes it. A machine
that waits for a key looks at the keypad instead, and one that has stopped does nothing.
-/

namespace Chip8.State

/-- The word at the program counter. The second address wraps after 65535. -/
def fetch (state : State) : UInt16 :=
  (state.memory.read state.pc.toNat).toUInt16 <<< 8 |||
    (state.memory.read (state.pc + 1).toNat).toUInt16

/-- Whether a whole word lies at the program counter. -/
def canFetch (state : State) : Bool :=
  state.pc ≤ 0xFFE

/-- A cycle of a machine that waits: a newly pressed key goes to the register and ends the wait;
without one the machine remembers which keys are held. -/
def poll (state : State) : State :=
  match state.keypad.firstNewPress? state.latch with
  | some key =>
    { state with
      registers := state.registers.setNumber state.keyRegister.toNat (UInt8.ofNat key)
      waiting := false }.next
  | none => { state with latch := state.keypad }

/-- A cycle of a machine that runs. -/
def fetchAndExecute (state : State) : State :=
  if state.canFetch then state.execute state.fetch else state.halt .address

/-- One cycle. -/
def step (state : State) : State :=
  if state.halted then state
  else if state.waiting then state.poll
  else state.fetchAndExecute

/-- As many cycles as are asked for. -/
def steps : Nat → State → State
  | 0, state => state
  | count + 1, state => steps count state.step

/-- `steps` for a number of any sign; below one there is nothing to do. -/
def run (state : State) (count : Int) : State :=
  steps count.toNat state

/-- The word that the next cycle executes, if it executes one. -/
def pendingWord? (state : State) : Option UInt16 :=
  if !state.halted && !state.waiting && state.canFetch then some state.fetch else none

theorem steps_succ (count : Nat) (state : State) :
    steps (count + 1) state = steps count state.step := rfl

theorem steps_add (first second : Nat) (state : State) :
    steps (first + second) state = steps second (steps first state) := by
  induction first generalizing state with
  | zero => rw [Nat.zero_add]; rfl
  | succ first ih => rw [Nat.add_right_comm, steps_succ, ih, steps_succ]

theorem step_of_halted {state : State} (halted : state.halted = true) : state.step = state := by
  simp [step, halted]

theorem steps_of_halted {state : State} (halted : state.halted = true) (count : Nat) :
    steps count state = state := by
  induction count with
  | zero => rfl
  | succ count ih => rw [steps_succ, step_of_halted halted, ih]

/-- A cycle with a pending word executes that word. -/
theorem step_of_pendingWord? {state : State} {word : UInt16}
    (pending : state.pendingWord? = some word) : state.step = state.execute word := by
  unfold pendingWord? at pending
  split at pending
  · next ready =>
    simp only [Bool.and_eq_true, Bool.not_eq_true'] at ready
    simp only [Option.some.injEq] at pending
    simp [step, fetchAndExecute, ready, pending]
  · simp at pending

end Chip8.State
