import Chip8.Proofs.CycleCases
import Chip8.Proofs.Histories

/-!
# Ticks and keys among the cycles

Timer ticks and new key states reach a machine between its cycles. A cycle that does not ask for an
input comes out the same before and after it: `step_receive`, by cases on what the cycle does, from
the one lemma `effect_receive` about instructions. So in a run whose cycles ask for nothing the
inputs can be moved. `after_eq_steps` moves them all behind the cycles; two runs with the same
cycles and the same inputs in the same order then end alike (`inputs_independent`).
-/

namespace Chip8

/-- What reaches a machine from its host while a program runs. -/
inductive Input where
  | tick
  | keys (keypad : Keypad)

/-! ## Instructions that ask for an input -/

/-- The words that read or set a timer. -/
def AsksTimers (word : UInt16) : Prop :=
  ∃ x : Fin 16, word.toNat = 0xF007 + 0x100 * x ∨ word.toNat = 0xF015 + 0x100 * x ∨
    word.toNat = 0xF018 + 0x100 * x

/-- The words that look at the keypad. -/
def AsksKeys (word : UInt16) : Prop :=
  ∃ x : Fin 16, word.toNat = 0xE09E + 0x100 * x ∨ word.toNat = 0xE0A1 + 0x100 * x ∨
    word.toNat = 0xF00A + 0x100 * x

/-- The words whose execution can tell whether an input has come or is still to come. -/
def Input.AskedBy : Input → UInt16 → Prop
  | tick => AsksTimers
  | keys _ => AsksKeys

namespace Form

/-- The forms of those words. -/
def asks : Form → Input → Bool
  | readDelay, .tick | setDelay, .tick | setSound, .tick => true
  | skipPressed, .keys _ | skipReleased, .keys _ | awaitKey, .keys _ => true
  | _, _ => false

theorem askedBy_of_asks {form : Form} {input : Input} {word : UInt16}
    (covering : form.covers word = true) (asks : form.asks input = true) : input.AskedBy word := by
  have digits := (covers_iff_toNat form word).mp covering
  cases input with
  | tick =>
    cases form with
    | readDelay => exact ⟨_, .inl digits⟩
    | setDelay => exact ⟨_, .inr (.inl digits)⟩
    | setSound => exact ⟨_, .inr (.inr digits)⟩
    | _ => contradiction
  | keys =>
    cases form with
    | skipPressed => exact ⟨_, .inl digits⟩
    | skipReleased => exact ⟨_, .inr (.inl digits)⟩
    | awaitKey => exact ⟨_, .inr (.inr digits)⟩
    | _ => contradiction

end Form

namespace State

/-- The state after an input. -/
def receive (state : State) : Input → State
  | .tick => state.tick
  | .keys keypad => state.setKeys keypad

variable {state : State} {input : Input}

/-! ## What an input leaves alone -/

@[simp]
theorem halted_receive : (state.receive input).halted = state.halted := by
  cases input <;> rfl

@[simp]
theorem waiting_receive : (state.receive input).waiting = state.waiting := by
  cases input <;> rfl

@[simp]
theorem pendingWord?_receive : (state.receive input).pendingWord? = state.pendingWord? := by
  cases input <;> rfl

/-- No input stands in the way of an instruction. -/
theorem hazard?_receive (form : Form) (operands : Operands) :
    form.hazard? operands (state.receive input) = form.hazard? operands state := by
  cases input <;> cases form <;> rfl

theorem obstacle?_receive (word : UInt16) :
    (state.receive input).obstacle? word = state.obstacle? word := by
  simp only [obstacle?, hazard?_receive]

/-! ## A cycle and an input -/

/-- An instruction that does not ask for an input has the same effect before and after it. -/
theorem effect_receive {form : Form} (deaf : form.asks input = false) (operands : Operands) :
    form.effect operands (state.receive input) = (form.effect operands state).receive input := by
  cases input <;> cases form <;> first | rfl | contradiction

theorem execute_receive {word : UInt16} (deaf : ¬ input.AskedBy word) :
    (state.receive input).execute word = (state.execute word).receive input := by
  cases obstacle : state.obstacle? word with
  | some fault =>
    have still : (state.receive input).obstacle? word = some fault := by
      rw [obstacle?_receive, obstacle]
    rw [execute_of_obstacle obstacle, execute_of_obstacle still]
    cases input <;> rfl
  | none =>
    obtain ⟨form, found, safe⟩ := exists_form_of_clear obstacle
    have still : form.hazard? (Operands.ofWord word) (state.receive input) = none := by
      rw [hazard?_receive, safe]
    have unasked : form.asks input = false := by
      rw [Bool.eq_false_iff]
      exact fun asks => deaf (Form.askedBy_of_asks (Form.covers_of_ofWord? found) asks)
    rw [execute_of_form found safe, execute_of_form found still, ← effect_receive unasked]
    cases input <;> rfl

/-- A wait for a key does not look at the timers. -/
theorem poll_tick (state : State) : state.tick.poll = state.poll.tick := by
  cases found : state.keypad.firstNewPress? state.latch with
  | some key => simp only [poll, tick, found, next, advance]
  | none => simp only [poll, tick, found]

/-- The next cycle does not ask for an input: a wait, if there is one, is not for it, nor is the
word that the cycle executes, if it executes one. -/
structure Ignores (state : State) (input : Input) : Prop where
  wait : state.fault = none → state.waiting = true → input = .tick
  word : ∀ word, state.pendingWord? = some word → ¬ input.AskedBy word

/-- A pending word is the one at the program counter of a machine that runs and does not wait. -/
theorem of_pendingWord? {word : UInt16} (pending : state.pendingWord? = some word) :
    word = state.fetch ∧ state.halted = false ∧ state.waiting = false ∧ ¬ 0xFFE < state.pc := by
  simp only [pendingWord?, canFetch, Option.ite_none_right_eq_some, Bool.and_eq_true,
    Bool.not_eq_true', decide_eq_true_eq, Option.some.injEq] at pending
  obtain ⟨⟨⟨running, awake⟩, near⟩, same⟩ := pending
  exact ⟨same.symm, running, awake, UInt16.not_lt.mpr near⟩

theorem ignores_tick (unasked : state.halted = true ∨ state.waiting = true ∨ 0xFFE < state.pc ∨
    ¬ AsksTimers state.fetch) : state.Ignores .tick where
  wait _ _ := rfl
  word word pending := by
    obtain ⟨rfl, running, awake, near⟩ := of_pendingWord? pending
    rcases unasked with halts | waits | far | deaf
    · simp [running] at halts
    · simp [awake] at waits
    · exact absurd far near
    · exact deaf

theorem ignores_keys (keypad : Keypad) (unasked : state.halted = true ∨
    state.waiting = false ∧ (0xFFE < state.pc ∨ ¬ AsksKeys state.fetch)) :
    state.Ignores (.keys keypad) where
  wait running waits := by
    rcases unasked with halts | ⟨awake, -⟩
    · simp [halted, running] at halts
    · simp [awake] at waits
  word word pending := by
    obtain ⟨rfl, running, -, near⟩ := of_pendingWord? pending
    rcases unasked with halts | ⟨-, far | deaf⟩
    · simp [running] at halts
    · exact absurd far near
    · exact deaf

/-- A cycle that does not ask for an input comes out the same before and after it. -/
theorem step_receive (ignores : state.Ignores input) :
    (state.receive input).step = state.step.receive input := by
  cases halts : state.halted with
  | true =>
    have still : (state.receive input).halted = true := by rw [halted_receive, halts]
    rw [step_of_halted halts, step_of_halted still]
  | false =>
    have running : state.fault = none := by simpa [halted] using halts
    cases waits : state.waiting with
    | true =>
      cases ignores.wait running waits
      have polled : state.tick.step = state.tick.poll := step_of_waiting running waits
      rw [step_of_waiting running waits]
      exact polled.trans state.poll_tick
    | false =>
      by_cases near : state.pc ≤ 0xFFE
      · have pending := pendingWord?_eq_fetch_iff.mpr ⟨running, waits, near⟩
        have still : (state.receive input).pendingWord? = some state.fetch := by
          rw [pendingWord?_receive, pending]
        rw [step_of_pendingWord? pending, step_of_pendingWord? still,
          execute_receive (ignores.word _ pending)]
      · have far := UInt16.not_le.mp near
        rw [step_of_outside running waits far]
        cases input <;> exact step_of_outside running waits far

end State

/-! ## Inputs as requests -/

/-- Whether a request hands an input to the machine. -/
def Request.isInput : Request → Bool
  | tick | setKeypad _ => true
  | _ => false

namespace State

variable {state : State} {request : Request}

/-- New key states are taken or refused whatever the machine does. -/
theorem setKeypad_eq (keys : Nested Bool) :
    (∃ keypad, ∀ state : State, state.setKeypad keys = .ok (state.setKeys keypad)) ∨
      ∃ failure, ∀ state : State, state.setKeypad keys = .error failure := by
  cases even : keys.shape.2 with
  | true =>
    by_cases sized : keys.shape.1 = [16] ∧ keys.values.length = 16
    · exact .inl ⟨⟨⟨keys.values.toArray, by simpa using sized.2⟩⟩, fun state => by
        simp [setKeypad, even, sized]⟩
    · by_cases deep : levelLimit < keys.shape.1.length
      · exact .inr ⟨.tooManyLevels levelLimit, fun state => by
          simp only [setKeypad, even, sized, deep, if_true, dif_neg, not_false_eq_true]⟩
      · exact .inr ⟨.keyShape keys.shape.1, fun state => by
          simp only [setKeypad, even, sized, deep, if_true, if_false, dif_neg, not_false_eq_true]⟩
  | false =>
    by_cases deep : levelLimit ≤ keys.shape.1.length
    · exact .inr ⟨.tooManyLevels levelLimit, fun state => by
        simp only [setKeypad, even, deep, Bool.false_eq_true, if_true, if_false]⟩
    · exact .inr ⟨.unevenShape keys.shape.1, fun state => by
        simp only [setKeypad, even, deep, Bool.false_eq_true, if_false]⟩

/-- A request that hands over an input does so, or is refused. -/
theorem serve_input (inputs : request.isInput = true) :
    (∃ input, ∀ state : State, (state.serve request).1 = state.receive input) ∨
      ∀ state : State, (state.serve request).1 = state := by
  cases request with
  | tick => exact .inl ⟨.tick, fun _ => rfl⟩
  | setKeypad keys =>
    rcases setKeypad_eq keys with ⟨keypad, taken⟩ | ⟨failure, refused⟩
    · exact .inl ⟨.keys keypad, fun state => by simp only [serve, taken, orRefuse, receive]⟩
    · exact .inr fun state => by simp only [serve, refused, orRefuse]
  | _ => contradiction

/-- The machine does not wait for a key, and the word that it executes next, if it executes one,
asks for no input. -/
structure Absorbed (state : State) : Prop where
  awake : state.waiting = false
  word : ∀ word, state.pendingWord? = some word → ¬ AsksTimers word ∧ ¬ AsksKeys word

theorem Absorbed.ignores (absorbed : state.Absorbed) (input : Input) : state.Ignores input where
  wait _ waits := by simp [absorbed.awake] at waits
  word word pending := by
    obtain ⟨noTimers, noKeys⟩ := absorbed.word word pending
    cases input with
    | tick => exact noTimers
    | keys => exact noKeys

theorem absorbed_serve_iff (inputs : request.isInput = true) :
    (state.serve request).1.Absorbed ↔ state.Absorbed := by
  rcases serve_input inputs with ⟨input, received⟩ | refused
  · rw [received]
    constructor
    · rintro ⟨awake, word⟩
      exact ⟨by rwa [waiting_receive] at awake, by rwa [pendingWord?_receive] at word⟩
    · rintro ⟨awake, word⟩
      exact ⟨by rwa [waiting_receive], by rwa [pendingWord?_receive]⟩
  · rw [refused]

theorem step_serve (absorbed : state.Absorbed) (inputs : request.isInput = true) :
    (state.serve request).1.step = (state.step.serve request).1 := by
  rcases serve_input inputs with ⟨input, received⟩ | refused
  · rw [received, received, step_receive (absorbed.ignores input)]
  · rw [refused, refused]

/-- Only an instruction that asks for a key makes a machine wait. -/
theorem waiting_step_of_absorbed (absorbed : state.Absorbed) : state.step.waiting = false := by
  have awake := absorbed.awake
  cases state.cycleCases with
  | stopped _ same => rw [same, awake]
  | pressed _ _ waits _ _ => simp [awake] at waits
  | unpressed _ waits _ _ => simp [awake] at waits
  | outside _ _ _ halts => rw [halts, awake]
  | blocked _ _ _ halts => rw [halts, awake]
  | executed form pending found safe runs =>
    rw [runs, Form.waiting_effect]
    split
    · have digits := (Form.covers_iff_toNat .awaitKey _).mp (Form.covers_of_ofWord? found)
      exact absurd ⟨_, .inr (.inr digits)⟩ (absorbed.word _ pending).2
    · exact awake

/-! ## Runs that ask for nothing -/

/-- So many cycles without an input between them ask for none. -/
def AbsorbedFor : Nat → State → Prop
  | 0, _ => True
  | count + 1, state => state.Absorbed ∧ AbsorbedFor count state.step

/-- An input before them makes no difference to what cycles ask for. -/
theorem absorbedFor_serve_iff (inputs : request.isInput = true) (count : Nat) :
    AbsorbedFor count (state.serve request).1 ↔ AbsorbedFor count state := by
  induction count generalizing state with
  | zero => exact Iff.rfl
  | succ count ih =>
    simp only [AbsorbedFor, absorbed_serve_iff inputs]
    refine and_congr_right fun absorbed => ?_
    rw [step_serve absorbed inputs, ih]

/-- Cycles that ask for nothing come out the same before and after an input. -/
theorem steps_serve (inputs : request.isInput = true) {count : Nat}
    (absorbed : AbsorbedFor count state) :
    steps count (state.serve request).1 = ((steps count state).serve request).1 := by
  induction count generalizing state with
  | zero => rfl
  | succ count ih => rw [steps_succ, steps_succ, step_serve absorbed.1 inputs, ih absorbed.2]

/-- A history of cycles and inputs. -/
def IsRun (history : List Request) : Prop :=
  ∀ request ∈ history, request = .step ∨ request.isInput = true

/-- How many cycles a history of cycles and inputs has. -/
def cycleCount (history : List Request) : Nat :=
  history.countP fun request => !request.isInput

/-- If the cycles ask for nothing, all inputs may as well come after them. -/
theorem after_eq_steps {history : List Request} (run : IsRun history)
    (absorbed : AbsorbedFor (cycleCount history) state) :
    state.after history =
      (steps (cycleCount history) state).after (history.filter Request.isInput) := by
  induction history generalizing state with
  | nil => rfl
  | cons request rest ih =>
    have runRest : IsRun rest := fun later among => run later (List.mem_cons_of_mem _ among)
    rcases run request List.mem_cons_self with rfl | inputs
    · have counts : cycleCount (.step :: rest) = cycleCount rest + 1 := by
        simp [cycleCount, Request.isInput]
      rw [counts] at absorbed ⊢
      exact ih runRest absorbed.2
    · have counts : cycleCount (request :: rest) = cycleCount rest := by
        simp [cycleCount, inputs]
      rw [counts] at absorbed ⊢
      have later := ih runRest ((absorbedFor_serve_iff inputs _).mpr absorbed)
      rw [steps_serve inputs absorbed] at later
      rw [List.filter_cons_of_pos inputs]
      exact later

/-- No cycle of a history executes a word that asks for an input. -/
def AsksNothing (state : State) (history : List Request) : Prop :=
  ∀ earlier later, history = earlier ++ .step :: later →
    ∀ word, (state.after earlier).pendingWord? = some word → ¬ AsksTimers word ∧ ¬ AsksKeys word

theorem asksNothing_nil (state : State) : state.AsksNothing [] := by
  intro earlier later split
  simp at split

theorem asksNothing_cons {rest : List Request} :
    state.AsksNothing (request :: rest) ↔
      (request = .step →
        ∀ word, state.pendingWord? = some word → ¬ AsksTimers word ∧ ¬ AsksKeys word) ∧
      (state.serve request).1.AsksNothing rest := by
  constructor
  · intro nothing
    refine ⟨?_, fun earlier later split => nothing (request :: earlier) later (by rw [split]; rfl)⟩
    rintro rfl
    exact nothing [] rest rfl
  · rintro ⟨now, onwards⟩ earlier later split
    cases earlier with
    | nil =>
      obtain ⟨cycle, -⟩ := List.cons.inj split
      exact now cycle
    | cons first earlier =>
      obtain ⟨same, further⟩ := List.cons.inj split
      rw [← same]
      exact onwards earlier later further

/-- Of a run that asks for nothing, the cycles alone ask for nothing either. -/
theorem absorbedFor_of_asksNothing {history : List Request} (awake : state.waiting = false)
    (run : IsRun history) (nothing : state.AsksNothing history) :
    AbsorbedFor (cycleCount history) state := by
  induction history generalizing state with
  | nil => trivial
  | cons request rest ih =>
    have runRest : IsRun rest := fun later among => run later (List.mem_cons_of_mem _ among)
    obtain ⟨now, nothingRest⟩ := asksNothing_cons.mp nothing
    rcases run request List.mem_cons_self with rfl | inputs
    · have counts : cycleCount (.step :: rest) = cycleCount rest + 1 := by
        simp [cycleCount, Request.isInput]
      have absorbed : state.Absorbed := ⟨awake, now rfl⟩
      rw [counts]
      exact ⟨absorbed, ih (waiting_step_of_absorbed absorbed) runRest nothingRest⟩
    · have counts : cycleCount (request :: rest) = cycleCount rest := by
        simp [cycleCount, inputs]
      have still : (state.serve request).1.waiting = false := by
        rcases serve_input inputs with ⟨input, received⟩ | refused
        · rw [received, waiting_receive, awake]
        · rw [refused, awake]
      rw [counts, ← absorbedFor_serve_iff inputs]
      exact ih still runRest nothingRest

/-- **Independence of inputs.** A tick comes out the same before and after a cycle that neither
reads nor sets a timer, and so do new key states and a cycle that does not look at the keypad. In a
run that starts awake and whose cycles do none of this, the inputs may be moved anywhere among the
cycles if they keep their order. -/
theorem inputs_independent (state : State) :
    (state.halted = true ∨ state.waiting = true ∨ 0xFFE < state.pc ∨ ¬ AsksTimers state.fetch →
      state.tick.step = state.step.tick) ∧
    (state.halted = true ∨ state.waiting = false ∧ (0xFFE < state.pc ∨ ¬ AsksKeys state.fetch) →
      ∀ keypad, (state.setKeys keypad).step = state.step.setKeys keypad) ∧
    (state.waiting = false → ∀ first second, IsRun first → state.AsksNothing first →
      second.Perm first → second.filter Request.isInput = first.filter Request.isInput →
      state.after second = state.after first) := by
  refine ⟨fun unasked => step_receive (ignores_tick unasked),
    fun unasked keypad => step_receive (ignores_keys keypad unasked), ?_⟩
  intro awake first second run nothing moved order
  have absorbed := absorbedFor_of_asksNothing awake run nothing
  have same : cycleCount second = cycleCount first := moved.countP_eq _
  have runSecond : IsRun second := fun request among => run request (moved.mem_iff.mp among)
  rw [after_eq_steps run absorbed, after_eq_steps runSecond (same ▸ absorbed), same, order]

/-- A register is set and added to the index register, and a beep falls due, in any order. -/
theorem inputs_independent_around_addIndex :
    let state := { (fresh ⟨0, 0⟩).after [.loadProgram [0x61, 0x05, 0xF1, 0x1E]] with
      soundTimer := 1 }
    let press : Request := .setKeypad (.row (List.replicate 16 (.value true)))
    state.after [.step, .tick, .step, press] = state.after [.tick, press, .step, .step] ∧
      (state.after [.tick, press, .step, .step]).beep = true ∧
      (state.after [.tick, press, .step, .step]).index = 5 := by
  intro state press
  have deaf : ∀ word, word = 0x6105 ∨ word = 0xF11E → ¬ AsksTimers word ∧ ¬ AsksKeys word := by
    rintro word (rfl | rfl) <;> exact ⟨by unfold AsksTimers; decide, by unfold AsksKeys; decide⟩
  have nothing : state.AsksNothing [.tick, press, .step, .step] := by
    refine asksNothing_cons.mpr ⟨nofun, asksNothing_cons.mpr ⟨nofun, asksNothing_cons.mpr
      ⟨fun _ word pending => deaf word (.inl ?_), asksNothing_cons.mpr
        ⟨fun _ word pending => deaf word (.inr ?_), asksNothing_nil _⟩⟩⟩⟩
    · exact Option.some.inj (pending.symm.trans (by decide +kernel))
    · exact Option.some.inj (pending.symm.trans (by decide +kernel))
  have run : IsRun [.tick, press, .step, .step] := by simp [IsRun, Request.isInput, press]
  have moved : [.step, .tick, .step, press].Perm [.tick, press, .step, .step] :=
    (List.Perm.swap _ _ _).trans (.cons _ (@List.perm_append_comm Request [.step, .step] [press]))
  exact ⟨(inputs_independent state).2.2 (by decide +kernel) _ _ run nothing moved rfl,
    by decide +kernel, by decide +kernel⟩

end State

end Chip8
