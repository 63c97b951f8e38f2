import Chip8.Proofs.FaultErrors
import Chip8.Proofs.LogLines

/-!
# The trace of instructions

At debug level a machine writes a line about each instruction before it executes it. It looks at the
state by itself to see whether there will be one, and fetches the word by itself; the cycle does the
same again. Both come to the same: what a call of `cycle` writes is that line, if the call fetches a
word, and then the report of the error, if the machine has stopped (`Machine.texts_eq`). Over any
number of calls, also past failures, the lines at debug level show the words that are executed, in
order, and no other call leaves such a line (`Machine.trace_exact`).
-/

namespace Chip8

/-! ## Cycles that fetch a word -/

namespace State

/-- A cycle from the state fetches a word: the machine has not stopped, does not wait for a key, and
a whole word lies at the program counter. -/
def Fetches (state : State) : Prop :=
  state.fault = none ∧ state.waiting = false ∧ state.pc ≤ 0xFFE

instance decidableFetches (state : State) : Decidable state.Fetches :=
  inferInstanceAs (Decidable (_ ∧ _ ∧ _))

variable {state : State}

theorem pendingWord?_of_fetches (fetches : state.Fetches) :
    state.pendingWord? = some state.fetch :=
  pendingWord?_eq_fetch_iff.mpr fetches

theorem pendingWord?_of_not_fetches (idle : ¬ state.Fetches) : state.pendingWord? = none := by
  cases pending : state.pendingWord? with
  | none => rfl
  | some word =>
    -- a word that is pending is the one at the program counter
    have here : state.fetch = word := by
      unfold pendingWord? at pending
      split at pending
      · exact Option.some.inj pending
      · contradiction
    exact absurd (pendingWord?_eq_fetch_iff.mp (here ▸ pending)) idle

/-- A cycle that fetches a word executes that word, and records it. -/
theorem step_of_fetches (fetches : state.Fetches) :
    state.step = state.execute state.fetch ∧ state.step.opcode = state.fetch := by
  have pending := pendingWord?_of_fetches fetches
  refine ⟨step_of_pendingWord? pending, ?_⟩
  rw [opcode_step, pending, Option.getD_some]

end State

/-! ## Lines at debug level -/

namespace Logger

variable (logger : Logger) (now : Float)

/-- The line about an instruction: its address, the word, and the assembly text of the word. -/
def instructionLine (pc word : UInt16) : String :=
  logger.heading now .debug ++ ("0x" ++ Text.hex 3 pc.toNat ++ ": " ++ Text.hex 4 word.toNat
    ++ "  " ++ disassemble word.toNat) ++ "\n"

/-- Whether a line is at debug level. -/
def isDebugLine (line : String) : Bool :=
  (logger.heading now .debug).toList.isPrefixOf line.toList

theorem isDebugLine_instructionLine (pc word : UInt16) :
    logger.isDebugLine now (logger.instructionLine now pc word) = true := by
  simp only [isDebugLine, instructionLine, List.isPrefixOf_iff_prefix, String.toList_append,
    List.append_assoc, List.prefix_append]

theorem print_instruction (debug : logger.isEnabledFor Level.debug.name = true) (pc word : UInt16) :
    logger.print now (.instruction pc word) = logger.instructionLine now pc word :=
  logger.log_of_enabled now debug _

/-- A heading ends in a bracket and a space, so it is no beginning of the empty text. -/
theorem isDebugLine_empty : logger.isDebugLine now "" = false := by
  rw [isDebugLine, Bool.eq_false_iff, Ne, List.isPrefixOf_iff_prefix]
  intro starts
  have empty := List.prefix_nil.mp starts
  simp [heading] at empty

/-- Whatever is logged at another level is no line at debug level. -/
theorem isDebugLine_log {level : Level} (other : level ≠ .debug) (message : String) :
    logger.isDebugLine now (logger.log now level.name message) = false := by
  rw [log]
  split
  · rw [isDebugLine, Bool.eq_false_iff, Ne, List.isPrefixOf_iff_prefix, format_eq_heading,
      String.append_assoc]
    exact logger.heading_not_prefix now other (message ++ "\n")
  · exact logger.isDebugLine_empty now

theorem isDebugLine_stopped (error : MachineError) :
    logger.isDebugLine now (logger.stopped now error) = false :=
  @isDebugLine_log logger now .critical (by decide) error.report

/-- What is written about the error of a state, if it has one. -/
def report (state : State) : String :=
  (state.error?.map (logger.stopped now)).getD ""

theorem isDebugLine_report (state : State) :
    logger.isDebugLine now (logger.report now state) = false := by
  unfold report
  cases state.error? with
  | none => exact logger.isDebugLine_empty now
  | some error => exact logger.isDebugLine_stopped now error

end Logger

/-! ## What one cycle writes -/

namespace Machine

/-- The texts that one cycle writes, in order. -/
def texts (machine : Machine) (around : Surroundings) (time : Float) : List String :=
  (machine.cycle around).notes.map (machine.logger.print time)

/-- The lines at debug level that one cycle writes. -/
def debugLines (machine : Machine) (around : Surroundings) (time : Float) : List String :=
  (machine.texts around time).filter (machine.logger.isDebugLine time)

variable {machine : Machine}

theorem notes_cycle (machine : Machine) (around : Surroundings) :
    (machine.cycle around).notes =
      machine.preview ++ (machine.state.step.error?.map Note.stopped).toList := by
  cases stopped : machine.state.step.error? with
  | none =>
    rw [cycle_of_running stopped]
    rfl
  | some error =>
    rw [cycle_of_stopped stopped]
    rfl

theorem map_print_preview (time : Float)
    (debug : machine.logger.isEnabledFor Level.debug.name = true) :
    machine.preview.map (machine.logger.print time) =
      if machine.state.Fetches then
        [machine.logger.instructionLine time machine.state.pc machine.state.fetch] else [] := by
  rw [preview]
  split
  · next fetches =>
    rw [State.pendingWord?_of_fetches fetches, Option.map_some, Option.toList_some,
      List.map_singleton, machine.logger.print_instruction time debug]
  · next idle =>
    rw [State.pendingWord?_of_not_fetches idle]
    rfl

/-- A cycle writes the line of the word that it fetches, if it fetches one, and then about the error
of the state that it comes to, if the machine has stopped. -/
theorem texts_eq (around : Surroundings) (time : Float)
    (debug : machine.logger.isEnabledFor Level.debug.name = true) :
    machine.texts around time =
      (if machine.state.Fetches then
        [machine.logger.instructionLine time machine.state.pc machine.state.fetch] else []) ++
      (machine.state.step.error?.map (machine.logger.stopped time)).toList := by
  have reported : (machine.state.step.error?.map Note.stopped).toList.map
      (machine.logger.print time) =
        (machine.state.step.error?.map (machine.logger.stopped time)).toList := by
    cases machine.state.step.error? <;> rfl
  rw [texts, notes_cycle, List.map_append, map_print_preview time debug, reported]

/-- A cycle that fetches a word writes one line at debug level, about that word, and any other cycle
writes none. -/
theorem debugLines_eq (around : Surroundings) (time : Float)
    (debug : machine.logger.isEnabledFor Level.debug.name = true) :
    machine.debugLines around time =
      if machine.state.Fetches then
        [machine.logger.instructionLine time machine.state.pc machine.state.fetch]
      else [] := by
  have other : (machine.state.step.error?.map (machine.logger.stopped time)).toList.filter
      (machine.logger.isDebugLine time) = [] := by
    cases machine.state.step.error? with
    | none => rfl
    | some error =>
      refine List.filter_cons_of_neg ?_
      rw [machine.logger.isDebugLine_stopped time error]
      exact Bool.false_ne_true
  rw [debugLines, texts_eq around time debug, List.filter_append, other, List.append_nil]
  split
  · exact List.filter_cons_of_pos (machine.logger.isDebugLine_instructionLine time _ _)
  · rfl

/-- What a cycle writes as one text. -/
theorem printAll_cycle (around : Surroundings) (time : Float)
    (debug : machine.logger.isEnabledFor Level.debug.name = true) :
    machine.logger.printAll time (machine.cycle around).notes =
      (if machine.state.Fetches then
        machine.logger.instructionLine time machine.state.pc machine.state.fetch else "") ++
      machine.logger.report time machine.state.step := by
  have previewed : String.join (if machine.state.Fetches then
      [machine.logger.instructionLine time machine.state.pc machine.state.fetch] else []) =
        if machine.state.Fetches then
          machine.logger.instructionLine time machine.state.pc machine.state.fetch else "" := by
    split
    · rw [String.join_cons, String.join_nil, String.append_empty]
    · rfl
  have reported : String.join
      (machine.state.step.error?.map (machine.logger.stopped time)).toList =
        machine.logger.report time machine.state.step := by
    rw [Logger.report]
    cases machine.state.step.error? with
    | none => rfl
    | some error =>
      rw [Option.map_some, Option.toList_some, String.join_cons, String.join_nil,
        String.append_empty, Option.getD_some]
  rw [Logger.printAll, ← texts, texts_eq around time debug, String.join_append, previewed, reported]

/-! ## Many cycles -/

/-- The machine before a call of `cycle`, of many that follow each other whether or not they fail,
each in surroundings of its own. -/
def beforeCall (machine : Machine) (around : Nat → Surroundings) : Nat → Machine
  | 0 => machine
  | call + 1 => ((machine.beforeCall around call).cycle (around call)).machine

theorem logger_cycle (around : Surroundings) :
    (machine.cycle around).machine.logger = machine.logger :=
  (congrArg Machine.logger
    (machine_checkFault (machine.arriveAt around.now machine.state.step))).trans rfl

theorem logger_beforeCall (machine : Machine) (around : Nat → Surroundings) (call : Nat) :
    (machine.beforeCall around call).logger = machine.logger := by
  induction call with
  | zero => rfl
  | succ call ih => rw [beforeCall, logger_cycle, ih]

theorem state_beforeCall (machine : Machine) (around : Nat → Surroundings) (call : Nat) :
    (machine.beforeCall around call).state = State.steps call machine.state := by
  induction call with
  | zero => rfl
  | succ call ih => rw [beforeCall, state_cycle, ih, State.steps_succ_last]

/-- The calls that fetch a word. -/
def fetchingCalls (machine : Machine) (around : Nat → Surroundings) (count : Nat) : List Nat :=
  (List.range count).filter fun call => (machine.beforeCall around call).state.Fetches

theorem fetchingCalls_succ (machine : Machine) (around : Nat → Surroundings) (count : Nat) :
    machine.fetchingCalls around (count + 1) = machine.fetchingCalls around count ++
      if (machine.beforeCall around count).state.Fetches then [count] else [] := by
  rw [fetchingCalls, List.range_succ, List.filter_append, ← fetchingCalls]
  by_cases fetches : (machine.beforeCall around count).state.Fetches <;> simp [fetches]

/-- The words that calls fetch are those that as many cycles execute. -/
theorem map_fetch_fetchingCalls (machine : Machine) (around : Nat → Surroundings) (count : Nat) :
    (machine.fetchingCalls around count).map
        (fun call => (machine.beforeCall around call).state.fetch) =
      machine.state.executedWords count := by
  induction count with
  | zero => rfl
  | succ count ih =>
    rw [fetchingCalls_succ, List.map_append, ih, State.executedWords_succ, ← state_beforeCall]
    split
    · next fetches =>
      rw [State.pendingWord?_of_fetches fetches]
      rfl
    · next idle =>
      rw [State.pendingWord?_of_not_fetches idle]
      rfl

/-- The lines at debug level that so many calls of `cycle` write, in order. -/
def trace (machine : Machine) (around : Nat → Surroundings) (time : Nat → Float) (count : Nat) :
    List String :=
  (List.range count).flatMap fun call =>
    (machine.beforeCall around call).debugLines (around call) (time call)

theorem trace_succ (machine : Machine) (around : Nat → Surroundings) (time : Nat → Float)
    (count : Nat) : machine.trace around time (count + 1) = machine.trace around time count ++
      (machine.beforeCall around count).debugLines (around count) (time count) := by
  rw [trace, List.range_succ, List.flatMap_append, List.flatMap_singleton, trace]

/-- The line that a call writes, if it fetches a word. -/
def lineOfCall (machine : Machine) (around : Nat → Surroundings) (time : Nat → Float)
    (call : Nat) : String :=
  let before := (machine.beforeCall around call).state
  machine.logger.instructionLine (time call) before.pc before.fetch

/-- What a call writes. -/
def writtenByCall (machine : Machine) (around : Nat → Surroundings) (time : Nat → Float)
    (call : Nat) : String :=
  machine.logger.printAll (time call) ((machine.beforeCall around call).cycle (around call)).notes

section Calls

variable (around : Nat → Surroundings) (time : Nat → Float)
  (debug : machine.logger.isEnabledFor Level.debug.name = true)
include debug

theorem debugLines_beforeCall (call : Nat) :
    (machine.beforeCall around call).debugLines (around call) (time call) =
      if (machine.beforeCall around call).state.Fetches then
        [machine.lineOfCall around time call] else [] := by
  have kept := machine.logger_beforeCall around call
  rw [debugLines_eq _ _ (kept.symm ▸ debug), kept]
  rfl

/-- The lines are those of the calls that fetch a word. -/
theorem trace_eq_map (count : Nat) : machine.trace around time count =
    (machine.fetchingCalls around count).map (machine.lineOfCall around time) := by
  induction count with
  | zero => rfl
  | succ count ih =>
    rw [trace_succ, ih, debugLines_beforeCall around time debug, fetchingCalls_succ,
      List.map_append]
    split <;> rfl

theorem writtenByCall_eq (call : Nat) :
    machine.writtenByCall around time call =
      (if (machine.beforeCall around call).state.Fetches then
        machine.lineOfCall around time call else "") ++
      machine.logger.report (time call) (machine.beforeCall around (call + 1)).state := by
  have kept := machine.logger_beforeCall around call
  have written := printAll_cycle (around call) (time call) (kept.symm ▸ debug)
  rw [kept] at written
  rw [writtenByCall, written, beforeCall, state_cycle]
  rfl

end Calls

end Machine

/-! ## Calls of a session -/

namespace Session

open Machine

variable (session : Session)

theorem perform_cycle : session.perform (.cycles 1) =
    ⟨{ session with machine := (session.machine.cycle session.around).machine },
      (session.machine.cycle session.around).notes,
      (session.machine.cycle session.around).result.map fun _ => .done⟩ := by
  have single : session.machine.cycles session.around 1 = session.machine.cycle session.around := by
    cases result : (session.machine.cycle session.around).result with
    | ok =>
      rw [cycles, Outcome.andThen_of_ok _ result]
      simp only [cycles, done, List.append_nil, ← result]
    | error failure => rw [cycles, Outcome.andThen_of_error _ result, ← result]
  rw [perform, single]
  rfl

theorem written_cycle : (session.perform (.cycles 1)).written =
    session.machine.logger.printAll session.now (session.machine.cycle session.around).notes := by
  rw [perform_cycle, Reply.written, logger_cycle]

/-- Calls of `cycle` by a host, one after the other, also past failures. -/
theorem after_calls (count : Nat) : session.after (List.replicate count (.cycles 1)) =
    { session with machine := session.machine.beforeCall (fun _ => session.around) count } := by
  induction count with
  | zero => rfl
  | succ count ih =>
    rw [List.replicate_succ', after_append, ih]
    exact congrArg Reply.session (perform_cycle _)

/-- What a host sees written by the calls is what they write. -/
theorem map_written_replies (count : Nat) :
    (session.replies (List.replicate count (.cycles 1))).map Reply.written =
      (List.range count).map (session.machine.writtenByCall (fun _ => session.around)
        fun _ => session.now) := by
  induction count with
  | zero => rfl
  | succ count ih =>
    have last := written_cycle (session.after (List.replicate count (.cycles 1)))
    rw [after_calls, logger_beforeCall] at last
    rw [List.replicate_succ', replies_append, List.map_append, ih, List.range_succ, List.map_append,
      after_calls]
    exact congrArg (fun text => _ ++ [text]) last

end Session

namespace Machine

/-- **The trace.** At debug level, so many calls of `cycle`, also past failures, write one line at
that level for each call that fetches a word, in the order of the calls, about the program counter
and the word there, and none for any other call. The text of a call is that line, if there is one,
and behind it only the report of the error, if the machine has stopped; this is what a host sees
written by the calls. The words are those that as many cycles execute: a call that fetches a word
executes the word of its line, and leaves it as the recorded one. -/
theorem trace_exact (machine : Machine) (around : Nat → Surroundings) (time : Nat → Float)
    (debug : machine.logger.isEnabledFor Level.debug.name = true) (count : Nat) :
    let before (call : Nat) : State := (machine.beforeCall around call).state
    let line (call : Nat) : String :=
      machine.logger.instructionLine (time call) (before call).pc (before call).fetch
    let report (call : Nat) : String := machine.logger.report (time call) (before (call + 1))
    let written (call : Nat) : String :=
      machine.logger.printAll (time call)
        ((machine.beforeCall around call).cycle (around call)).notes
    let texts (call : Nat) : List String :=
      (machine.beforeCall around call).texts (around call) (time call)
    let calls := (List.range count).filter fun call => (before call).Fetches
    machine.trace around time count = calls.map line ∧
    (calls.map fun call => (before call).fetch) = machine.state.executedWords count ∧
    (∀ call, written call = String.join (texts call) ∧
      (texts call).filter (machine.logger.isDebugLine (time call)) =
        (if (before call).Fetches then [line call] else []) ∧
      written call = (if (before call).Fetches then line call else "") ++ report call ∧
      machine.logger.isDebugLine (time call) (report call) = false) ∧
    (∀ session : Session, session.machine = machine → around = (fun _ => session.around) →
      time = (fun _ => session.now) →
      (session.replies (List.replicate count (.cycles 1))).map Reply.written =
        (List.range count).map written) ∧
    ∀ call, (before call).Fetches →
      (before call).fetch.toNat = 0x100 * ((before call).memory.read (before call).pc.toNat).toNat
        + ((before call).memory.read ((before call).pc.toNat + 1)).toNat ∧
      before (call + 1) = (before call).execute (before call).fetch ∧
      (before (call + 1)).opcode = (before call).fetch := by
  intro before line report written texts calls
  refine ⟨trace_eq_map around time debug count, machine.map_fetch_fetchingCalls around count,
    fun call => ⟨?_, ?_, writtenByCall_eq around time debug call,
      machine.logger.isDebugLine_report _ _⟩, ?_, fun call fetches => ?_⟩
  · simp only [written, texts, Logger.printAll, Machine.texts, logger_beforeCall]
  · have lines := debugLines_beforeCall around time debug call
    rwa [debugLines, logger_beforeCall] at lines
  · rintro session rfl rfl rfl
    exact session.map_written_replies count
  · have moves : before (call + 1) = (before call).step := state_cycle (around call)
    obtain ⟨executes, records⟩ := State.step_of_fetches fetches
    rw [moves]
    exact ⟨State.toNat_fetch_of_le fetches.2.2, executes, records⟩

/-- A program sets a register, and its second word is no instruction. The call that finds it writes
its line and the error, and the cycles after that write no line at debug level. -/
theorem trace_exact_past_unknown_word :
    let logger : Logger := ⟨"Chip8", "debug", false, false, false, 0⟩
    let machine := { create ⟨0, 0⟩ logger .absent with
      state := (State.fresh ⟨0, 0⟩).after [.loadProgram [0x6A, 0x01, 0xFF, 0xFF]] }
    let around : Nat → Surroundings := fun _ => ⟨0, fun _ => .error .notFound⟩
    machine.logger.isEnabledFor Level.debug.name = true ∧
      machine.trace around (fun _ => 0) 4 =
        ["[   DEBUG][Chip8] 0x200: 6A01  LD VA, 0x01\n",
          "[   DEBUG][Chip8] 0x202: FFFF  DW 0xFFFF\n"] ∧
      machine.logger.printAll 0 ((machine.beforeCall around 1).cycle (around 1)).notes =
        "[   DEBUG][Chip8] 0x202: FFFF  DW 0xFFFF\n" ++
        "[CRITICAL][Chip8] DecodeError: Unknown instruction (opcode 0xFFFF at 0x202)\n" ∧
      (machine.beforeCall around 2).state.opcode = 0xFFFF := by
  intro logger machine around
  have debug : machine.logger.isEnabledFor Level.debug.name = true := by decide +kernel
  obtain ⟨lines, -, written, -, traced⟩ := trace_exact machine around (fun _ => 0) debug 4
  have calls : ((List.range 4).filter fun call => (machine.beforeCall around call).state.Fetches) =
      [0, 1] := by decide +kernel
  have fetches : (machine.beforeCall around 1).state.Fetches := by decide +kernel
  refine ⟨debug, ?_, (written 1).2.2.1.trans ?_, (traced 1 fetches).2.2.trans (by decide +kernel)⟩
  · rw [lines, calls]
    decide +kernel
  · rw [if_pos fetches]
    decide +kernel

end Machine

end Chip8
