import Mathlib.Logic.Function.Iterate
import Chip8.Proofs.CycleCases
import Chip8.Proofs.Histories

/-!
# The stream of random numbers

Only the words `CXNN` touch the key of the random numbers: each takes the byte of the key and moves
the key on. So a key depends on the key at the start and on how many such words were executed since,
and so does the byte that the next one takes. `drawsIn` counts them along a history, from what each
cycle has pending: a machine that waits, has stopped or has run out of memory executes nothing, and
draws nothing. `random_execute` says what one word does to the key, `random_steps` and
`random_after` what follows for cycles and for histories.
-/

namespace Chip8

/-- Whether a word has the form `CXNN`. -/
def isDraw (word : UInt16) : Bool :=
  word.toNat / 0x1000 == 0xC

namespace Form

variable {word : UInt16}

theorem random_covers_iff : Form.random.covers word = true ↔ isDraw word = true := by
  have address := Operands.val_nnn_ofWord word
  rw [covers_iff_toNat, isDraw, beq_iff_eq]
  simp only [row, free, UInt16.reduceToNat]
  omega

theorem ofWord?_eq_random_iff : ofWord? word = some .random ↔ isDraw word = true :=
  ⟨fun found => random_covers_iff.mp (covers_of_ofWord? found),
    fun draws => ofWord?_of_covers (by decide) (random_covers_iff.mpr draws)⟩

/-- An instruction moves the key on if it takes a random byte, and else leaves it alone. -/
theorem random_effect (form : Form) (operands : Operands) (state : State) :
    (form.effect operands state).random =
      match form with
      | random => Random.next state.random
      | _ => state.random := by
  cases form <;> rfl

end Form

namespace State

variable {state : State} {word : UInt16}

/-! ## One word -/

/-- A word `CXNN` moves the key on; every other word leaves it alone. -/
theorem random_execute (state : State) (word : UInt16) :
    (state.execute word).random =
      if isDraw word then Random.next state.random else state.random := by
  simp only [← Form.ofWord?_eq_random_iff]
  cases obstacle : state.obstacle? word with
  | some fault =>
    have other : Form.ofWord? word ≠ some .random := by
      intro found
      simp [obstacle?, found, Form.hazard?] at obstacle
    rw [execute_of_obstacle obstacle, if_neg other]
  | none =>
    obtain ⟨form, found, safe⟩ := exists_form_of_clear obstacle
    rw [execute_of_form found safe, Form.random_effect, found]
    split
    · rw [if_pos rfl]
    · next other => rw [if_neg fun same => other (Option.some.inj same)]

/-- The register that a word `CXNN` names receives the byte of the key, masked. -/
theorem get_execute_of_draw {x : Fin 16} {nn : Fin 256}
    (digits : word.toNat = 0xC000 + 0x100 * x + nn) :
    (state.execute word).registers.get x = Random.byte state.random &&& UInt8.ofNat nn := by
  have found : Form.ofWord? word = some .random := by
    rw [Form.ofWord?_eq_random_iff, isDraw, beq_iff_eq]
    omega
  have register : (Operands.ofWord word).x = x := by
    have named := Operands.val_x_ofWord word
    omega
  have mask : (Operands.ofWord word).byte = UInt8.ofNat nn := by
    have named := Operands.val_nn_ofWord word
    have same : (Operands.ofWord word).nn = nn := by omega
    rw [Operands.byte, same]
  rw [execute_of_form found rfl, ← register, ← mask]
  exact Registers.get_set_self _ _ _

/-! ## Cycles -/

/-- Whether the next cycle executes a word `CXNN`. -/
def draws (state : State) : Bool :=
  state.pendingWord?.any isDraw

theorem random_step (state : State) :
    state.step.random = if state.draws then Random.next state.random else state.random := by
  cases pending : state.pendingWord? with
  | some word =>
    rw [step_of_pendingWord? pending, random_execute, draws, pending]
    rfl
  | none =>
    have idle : state.step.random = state.random := by
      cases state.cycleCases with
      | stopped _ same => rw [same]
      | pressed _ _ _ _ resolved => rw [resolved]
      | unpressed _ _ _ looked => rw [looked]
      | outside _ _ _ halts => rw [halts]
      | blocked _ reached _ _ => simp [pending] at reached
      | executed _ reached _ _ _ => simp [pending] at reached
    rw [idle, draws, pending]
    rfl

/-- How many of the words that so many cycles execute have the form `CXNN`. -/
def drawsWithin (state : State) (count : Nat) : Nat :=
  (state.executedWords count).countP isDraw

theorem drawsWithin_succ (state : State) (count : Nat) :
    state.drawsWithin (count + 1) =
      state.drawsWithin count + if (steps count state).draws then 1 else 0 := by
  rw [drawsWithin, executedWords_succ, List.countP_append, drawsWithin, draws]
  cases (steps count state).pendingWord? <;> simp [List.countP_cons]

/-- Cycles move the key on as often as they execute a word `CXNN`. -/
theorem random_steps (state : State) (count : Nat) :
    (steps count state).random = Random.next^[state.drawsWithin count] state.random := by
  induction count with
  | zero => rfl
  | succ count ih =>
    rw [steps_succ_last, random_step, drawsWithin_succ, ih]
    split
    · rw [Function.iterate_succ_apply']
    · rfl

/-! ## Histories -/

/-- How many words `CXNN` are executed for a request. -/
def drawsFor (state : State) : Request → Nat
  | .execute number =>
    if (state.executeInt number).isOk && isDraw (UInt16.ofInt number) then 1 else 0
  | .step => state.drawsWithin 1
  | .run count => state.drawsWithin count.toNat
  | .runWithProgress count => if Progress.Countable count then state.drawsWithin count.toNat else 0
  | _ => 0

/-- How many words `CXNN` are executed in a history. -/
def drawsIn (state : State) : List Request → Nat
  | [] => 0
  | request :: rest => state.drawsFor request + (state.serve request).1.drawsIn rest

theorem random_of_hostChange {before after : State} (change : before.HostChange after) :
    after.random = before.random := by
  obtain ⟨_, _, _, _, _, _, rfl⟩ := change
  rfl

/-- A request moves the key on as often as a word `CXNN` is executed for it. -/
theorem random_serve (state : State) (request : Request) :
    (state.serve request).1.random = Random.next^[state.drawsFor request] state.random := by
  cases request with
  | execute number =>
    by_cases fits : -0x80000000 ≤ number ∧ number < 0x80000000
    · simp only [serve, executeInt, if_pos fits, orRefuse, random_execute, drawsFor, Except.isOk,
        Except.toBool, Bool.true_and]
      split <;> rfl
    · simp only [serve, executeInt, if_neg fits, orRefuse, drawsFor, Except.isOk, Except.toBool,
        Bool.false_and, Bool.false_eq_true, if_false]
      rfl
  | step => exact state.random_steps 1
  | run count => exact state.random_steps count.toNat
  | runWithProgress count =>
    by_cases countable : Progress.Countable count
    · obtain ⟨events, ran⟩ := runWithProgress_of_countable (ω := Unit) state countable
      simp only [serve, ran, drawsFor, if_pos countable]
      exact state.random_steps count.toNat
    · simp only [serve, runWithProgress_of_not_countable state countable, drawsFor,
        if_neg countable]
      rfl
  | push address =>
    simp only [serve, pushInt]
    split <;> rfl
  | pop => rfl
  | _ => exact random_of_hostChange (hostChange_serve state rfl)

/-- A history moves the key on as often as a word `CXNN` is executed in it. -/
theorem random_after (state : State) (history : List Request) :
    (state.after history).random = Random.next^[state.drawsIn history] state.random := by
  induction history generalizing state with
  | nil => rfl
  | cons request rest ih =>
    change ((state.serve request).1.after rest).random = _
    rw [ih, random_serve, drawsIn, Nat.add_comm, Function.iterate_add_apply]

/-- **The stream of random numbers.** Cycles move the key on once for each of them that executes a
word `CXNN`, and nothing else does, and each such cycle stores the masked byte of the key as often
moved on as there were such cycles before it. The same holds after any history, whatever is asked of
the machine between its cycles. So two histories from the same key in which as many words `CXNN` are
executed end with the same key. -/
theorem random_stream (state : State) :
    (∀ count : Int,
      (state.run count).random = Random.next^[state.drawsWithin count.toNat] state.random) ∧
    (∀ (cycle : Nat) (word : UInt16) (x : Fin 16) (nn : Fin 256),
      word.toNat = 0xC000 + 0x100 * x + nn → (steps cycle state).pendingWord? = some word →
      (steps (cycle + 1) state).registers.get x =
        Random.byte (Random.next^[state.drawsWithin cycle] state.random) &&& UInt8.ofNat nn) ∧
    (∀ history : List Request,
      let now := state.after history
      let key := Random.next^[state.drawsIn history] state.random
      now.random = key ∧
      ∀ (word : UInt16) (x : Fin 16) (nn : Fin 256), word.toNat = 0xC000 + 0x100 * x + nn →
        (now.execute word).registers.get x = Random.byte key &&& UInt8.ofNat nn ∧
        (now.pendingWord? = some word → now.step = now.execute word)) ∧
    ∀ (other : State) (history otherHistory : List Request), other.random = state.random →
      other.drawsIn otherHistory = state.drawsIn history →
      (other.after otherHistory).random = (state.after history).random := by
  refine ⟨fun count => state.random_steps count.toNat, ?_, ?_, ?_⟩
  · intro cycle word x nn digits pending
    rw [steps_succ_last, step_of_pendingWord? pending, get_execute_of_draw digits, random_steps]
  · intro history now key
    have reached : now.random = key := state.random_after history
    refine ⟨reached, fun word x nn digits => ⟨?_, step_of_pendingWord?⟩⟩
    rw [get_execute_of_draw digits, reached]
  · intro other history otherHistory sameKey sameCount
    rw [random_after, random_after, sameKey, sameCount]

/-- One program takes two random bytes in a row. Another one sets the delay timer in between, while
the timers tick and a frame is asked for. -/
theorem random_stream_of_two_programs :
    let start := fresh ⟨0, 7⟩
    let twice : List Request := [.loadProgram [0xC0, 0xFF, 0xC1, 0x0F], .run 2]
    let apart : List Request := [.loadProgram [0xC2, 0x3C, 0xF2, 0x15, 0xC3, 0xFF], .step, .tick,
      .step, .takeFrame, .run 3]
    start.drawsIn apart = 2 ∧ start.drawsIn twice = 2 ∧
      (start.after apart).random = (start.after twice).random ∧
      (steps 2 (start.after (twice.take 1))).registers.get 1 =
        Random.byte (Random.next start.random) &&& 0x0F := by
  intro start twice apart
  have apartCount : start.drawsIn apart = 2 := by decide +kernel
  have twiceCount : start.drawsIn twice = 2 := by decide +kernel
  obtain ⟨-, -, -, ends⟩ := random_stream start
  obtain ⟨-, stored, -, -⟩ := random_stream (start.after (twice.take 1))
  have second := stored 1 0xC10F 1 0x0F (by decide) (by decide +kernel)
  have first : (start.after (twice.take 1)).drawsWithin 1 = 1 := by decide +kernel
  have loaded : (start.after (twice.take 1)).random = start.random := by decide +kernel
  have mask : UInt8.ofNat (0x0F : Fin 256) = 0x0F := rfl
  rw [first, loaded, Function.iterate_one, mask] at second
  exact ⟨apartCount, twiceCount, ends start twice apart rfl (apartCount.trans twiceCount.symm),
    second⟩

end State

end Chip8
