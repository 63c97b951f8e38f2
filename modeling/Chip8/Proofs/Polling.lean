import Chip8.Proofs.CycleCases
import Chip8.Proofs.HostInputs

/-!
# Polling

A host polls a machine for a changed screen and for a due beep. Both are marks in the state, and a
poll clears the mark that it asks for. `State.MarkChange` relates two states that are alike but for
these marks. No instruction and no other request looks at a mark, so the relation is kept by every
request, and answers do not tell the two states apart (`alike_serve`). Hence a history may as well
go without its polls (`after_lasting`), and two histories that differ in polls only cannot be told
apart by anything but polls: `polling_invisible`.
-/

namespace Chip8

namespace Request

/-- Whether a request only asks for what is marked as new. -/
def isPoll : Request → Bool
  | takeFrame | takeBeep => true
  | _ => false

/-- The requests of a history that are not polls. -/
def lasting (history : List Request) : List Request :=
  history.filter fun request => !request.isPoll

end Request

namespace State

/-! ## States that differ in their marks -/

/-- The second state is the first but for the marks of a changed screen and of a due beep. -/
def MarkChange (before after : State) : Prop :=
  ∃ dirty beep, after = { before with dirty, beep }

variable {before after later : State}

theorem MarkChange.refl (state : State) : state.MarkChange state :=
  ⟨_, _, rfl⟩

theorem MarkChange.symm (change : before.MarkChange after) : after.MarkChange before := by
  obtain ⟨dirty, beep, rfl⟩ := change
  exact ⟨before.dirty, before.beep, rfl⟩

theorem MarkChange.trans (change : before.MarkChange after) (further : after.MarkChange later) :
    before.MarkChange later := by
  obtain ⟨_, _, rfl⟩ := change
  obtain ⟨dirty, beep, rfl⟩ := further
  exact ⟨dirty, beep, rfl⟩

/-- A poll changes marks only. -/
theorem markChange_of_isPoll (state : State) {request : Request} (poll : request.isPoll = true) :
    state.MarkChange (state.serve request).1 := by
  cases request with
  | takeBeep => exact ⟨_, _, rfl⟩
  | takeFrame =>
    simp only [serve, takeFrame]
    split
    · exact ⟨_, _, rfl⟩
    · exact .refl state
  | _ => contradiction

/-! ## Cycles -/

/-- No mark stands in the way of a word. -/
theorem obstacle?_marks (state : State) (word : UInt16) (dirty beep : Bool) :
    { state with dirty, beep }.obstacle? word = state.obstacle? word := by
  cases found : Form.ofWord? word with
  | none => simp only [obstacle?, found]
  | some form =>
    simp only [obstacle?, found]
    cases form <;> rfl

/-- An instruction that takes effect makes the same of states that differ in their marks, even if
it marks the screen as changed. -/
theorem markChange_effect (form : Form) (operands : Operands) (change : before.MarkChange after) :
    (form.effect operands before).MarkChange (form.effect operands after) := by
  obtain ⟨dirty, beep, rfl⟩ := change
  cases form <;> exact ⟨_, _, rfl⟩

theorem markChange_execute (change : before.MarkChange after) (word : UInt16) :
    (before.execute word).MarkChange (after.execute word) := by
  obtain ⟨dirty, beep, rfl⟩ := change
  have same := before.obstacle?_marks word dirty beep
  cases obstacle : before.obstacle? word with
  | some fault =>
    rw [execute_of_obstacle obstacle, execute_of_obstacle (same.trans obstacle)]
    exact ⟨dirty, beep, rfl⟩
  | none =>
    obtain ⟨form, found, safe⟩ := exists_form_of_clear obstacle
    obtain ⟨other, foundToo, safeToo⟩ := exists_form_of_clear (same.trans obstacle)
    cases found.symm.trans foundToo
    rw [execute_of_form found safe, execute_of_form found safeToo]
    exact markChange_effect form _ ⟨dirty, beep, rfl⟩

theorem markChange_poll (change : before.MarkChange after) : before.poll.MarkChange after.poll := by
  obtain ⟨dirty, beep, rfl⟩ := change
  cases found : before.keypad.firstNewPress? before.latch with
  | some key =>
    simp only [poll, found]
    exact ⟨dirty, beep, rfl⟩
  | none =>
    simp only [poll, found]
    exact ⟨dirty, beep, rfl⟩

theorem markChange_step (change : before.MarkChange after) : before.step.MarkChange after.step := by
  have executed := markChange_execute change before.fetch
  have polled := markChange_poll change
  obtain ⟨dirty, beep, rfl⟩ := change
  -- what decides how the cycle goes is the same in both states
  have halted : { before with dirty, beep }.halted = before.halted := rfl
  have near : { before with dirty, beep }.canFetch = before.canFetch := rfl
  have word : { before with dirty, beep }.fetch = before.fetch := rfl
  simp only [step, fetchAndExecute, halted, near, word]
  split
  · exact ⟨dirty, beep, rfl⟩
  · split
    · exact polled
    · split
      · exact executed
      · exact ⟨dirty, beep, rfl⟩

theorem markChange_steps (change : before.MarkChange after) (count : Nat) :
    (steps count before).MarkChange (steps count after) := by
  induction count generalizing before after with
  | zero => exact change
  | succ count ih => exact ih (markChange_step change)

/-! ## Requests -/

/-- Two states with what they answer: the states differ in their marks only, and the answers do not
differ. -/
def Alike (first second : State × Except Failure Answer) : Prop :=
  first.1.MarkChange second.1 ∧ second.2 = first.2

/-- Changes that are refused for the same reason, or made to states that differ in their marks
only. -/
inductive AlikeChange : Except Failure State → Except Failure State → Prop
  | made {first second : State} (change : first.MarkChange second) :
      AlikeChange (.ok first) (.ok second)
  | refused (failure : Failure) : AlikeChange (.error failure) (.error failure)

theorem AlikeChange.orRefuse {first second : Except Failure State}
    (alike : AlikeChange first second) (change : before.MarkChange after) :
    Alike (before.orRefuse first) (after.orRefuse second) := by
  cases alike with
  | made changed => exact ⟨changed, rfl⟩
  | refused failure => exact ⟨change, rfl⟩

theorem alike_executeInt (change : before.MarkChange after) (number : Int) :
    AlikeChange (before.executeInt number) (after.executeInt number) := by
  unfold executeInt
  split
  · exact .made (markChange_execute change _)
  · exact .refused _

theorem alike_pushInt (change : before.MarkChange after) (number : Int) :
    AlikeChange (before.pushInt number) (after.pushInt number) := by
  obtain ⟨dirty, beep, rfl⟩ := change
  unfold pushInt
  split
  · exact .made ⟨dirty, beep, rfl⟩
  · exact .refused _

theorem alike_setKeypad (change : before.MarkChange after) (keys : Nested Bool) :
    AlikeChange (before.setKeypad keys) (after.setKeypad keys) := by
  obtain ⟨dirty, beep, rfl⟩ := change
  rcases setKeypad_eq keys with ⟨keypad, taken⟩ | ⟨failure, refused⟩
  · rw [taken, taken]
    exact .made ⟨dirty, beep, rfl⟩
  · rw [refused, refused]
    exact .refused failure

theorem alike_writeBytes (change : before.MarkChange after) (address : Int) (data : List UInt8) :
    AlikeChange (before.writeBytes address data) (after.writeBytes address data) := by
  obtain ⟨dirty, beep, rfl⟩ := change
  unfold writeBytes
  cases checkRange address data.length with
  | ok => exact .made ⟨dirty, beep, rfl⟩
  | error failure => exact .refused failure

theorem alike_writeByte (change : before.MarkChange after) (address value : Int) :
    AlikeChange (before.writeByte address value) (after.writeByte address value) := by
  obtain ⟨dirty, beep, rfl⟩ := change
  unfold writeByte
  cases checkRange address 1 with
  | ok => exact .made ⟨dirty, beep, rfl⟩
  | error failure => exact .refused failure

theorem alike_loadProgram (change : before.MarkChange after) (program : List UInt8) :
    AlikeChange (before.loadProgram program) (after.loadProgram program) := by
  unfold loadProgram
  split
  · exact .refused _
  · split
    · exact .refused _
    · exact alike_writeBytes change _ _

/-- With a bar, the cycles of two states are announced alike: the bar does not look at the state. -/
theorem alike_runWithProgress (change : before.MarkChange after) (count : Int) :
    Alike (before.serve (.runWithProgress count)) (after.serve (.runWithProgress count)) := by
  by_cases countable : Progress.Countable count
  · have first : Progress.Countable 0 := by decide
    simp only [serve, runWithProgress, Progress.scanFrom, Progress.announce, countable, first,
      and_self, if_true, Except.map]
    refine ⟨?_, ?_⟩
    · simp only [Progress.scan_fst, foldl_step]
      exact markChange_steps change _
    · simp only [Progress.scan_snd]
  · simp only [serve, runWithProgress_of_not_countable _ countable]
    exact ⟨change, rfl⟩

/-- A request that is not a poll treats states alike that differ in their marks only. -/
theorem alike_serve (change : before.MarkChange after) {request : Request}
    (lasts : request.isPoll = false) : Alike (before.serve request) (after.serve request) := by
  cases request with
  | takeFrame | takeBeep => contradiction
  | execute number => exact (alike_executeInt change number).orRefuse change
  | push address => exact (alike_pushInt change address).orRefuse change
  | setKeypad keys => exact (alike_setKeypad change keys).orRefuse change
  | loadProgram program => exact (alike_loadProgram change program).orRefuse change
  | writeByte address value => exact (alike_writeByte change address value).orRefuse change
  | writeBytes address data => exact (alike_writeBytes change address data).orRefuse change
  | step => exact ⟨markChange_step change, rfl⟩
  | run count => exact ⟨markChange_steps change count.toNat, rfl⟩
  | runWithProgress count => exact alike_runWithProgress change count
  | tick | fetch | readByte | checkFault | pop | stackEnds =>
    obtain ⟨dirty, beep, rfl⟩ := change
    exact ⟨⟨_, _, rfl⟩, rfl⟩

/-! ## Histories -/

/-- The requests of a history that are not polls, each with its answer. -/
def lastingAnswers (state : State) (history : List Request) :
    List (Request × Except Failure Answer) :=
  (history.zip (state.answers history)).filter fun served => !served.1.isPoll

/-- A history comes to the same without its polls, also from a state whose marks differ. -/
theorem after_lasting (change : before.MarkChange after) (history : List Request) :
    (before.after history).MarkChange (after.after (Request.lasting history)) ∧
      after.lastingAnswers (Request.lasting history) = before.lastingAnswers history := by
  induction history generalizing before after with
  | nil => exact ⟨change, rfl⟩
  | cons request rest ih =>
    cases poll : request.isPoll with
    | true =>
      -- the poll is left out, and its marks are the only difference that it makes
      have polled := (markChange_of_isPoll before poll).symm.trans change
      obtain ⟨states, answers⟩ := ih polled
      have left : Request.lasting (request :: rest) = Request.lasting rest := by
        simp [Request.lasting, poll]
      rw [left]
      refine ⟨states, answers.trans ?_⟩
      simp [lastingAnswers, State.answers, poll]
    | false =>
      obtain ⟨served, answer⟩ := alike_serve change poll
      obtain ⟨states, answers⟩ := ih served
      have kept : Request.lasting (request :: rest) = request :: Request.lasting rest := by
        simp [Request.lasting, poll]
      rw [kept]
      refine ⟨states, ?_⟩
      simp only [lastingAnswers, State.answers, List.zip_cons_cons, List.filter_cons, poll,
        Bool.not_false, if_true, answer, List.cons.injEq, true_and]
      exact answers

/-- **Polling.** Two histories of one state that differ in polls only, as when some are left out,
end in states that differ in their marks only, and every request that is not a poll answers the same
in both. -/
theorem polling_invisible (state : State) {first second : List Request}
    (same : Request.lasting second = Request.lasting first) :
    (state.after first).MarkChange (state.after second) ∧
      state.lastingAnswers second = state.lastingAnswers first := by
  obtain ⟨firstStates, firstAnswers⟩ := after_lasting (.refl state) first
  obtain ⟨secondStates, secondAnswers⟩ := after_lasting (.refl state) second
  rw [same] at secondStates secondAnswers
  exact ⟨firstStates.trans secondStates.symm, secondAnswers.symm.trans firstAnswers⟩

/-- A digit is drawn and a beep falls due. One host polls after each cycle and tick and one does
not, but both read the same bytes, and only the marks show who has polled. -/
theorem polling_invisible_to_program :
    let state := fresh ⟨0, 0⟩
    let program : Request :=
      .loadProgram [0xA0, 0x50, 0xD0, 0x15, 0x60, 0x01, 0xF0, 0x18, 0xF0, 0x55]
    let first := [program, .takeFrame, .step, .step, .takeFrame, .run 2, .tick, .takeBeep, .takeBeep,
      .step, .readByte 0x50, .execute 0xFFFF, .checkFault]
    let second := [program, .step, .step, .run 2, .tick, .step, .readByte 0x50, .execute 0xFFFF,
      .checkFault]
    Request.lasting second = Request.lasting first ∧
      (state.after first).MarkChange (state.after second) ∧
      state.lastingAnswers second = state.lastingAnswers first ∧
      (state.after first).dirty = false ∧ (state.after second).dirty = true ∧
      (state.after first).beep = false ∧ (state.after second).beep = true := by
  intro state program first second
  have same : Request.lasting second = Request.lasting first := rfl
  obtain ⟨states, answers⟩ := polling_invisible state same
  refine ⟨same, states, answers, ?_, ?_, ?_, ?_⟩ <;> decide +kernel

end State

end Chip8
