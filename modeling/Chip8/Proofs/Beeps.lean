import Chip8.Proofs.HostInputs
import Chip8.Proofs.LogLines
import Chip8.Proofs.Ownership
import Chip8.Proofs.Restarts

/-!
# Beeps

A tick that finds the sound timer at one makes a beep due, and the operation that ticked delivers
it before it does anything else: it takes the mark down, notes the beep and calls the handler. So no
operation leaves the mark up, whether it succeeds or not, and the beeps that are noted are as many
as the ticks that found the sound timer at one. `Machine.tickedStates` lists what ticks find, also
if a handler that fails cuts them short; `delivers_ticks` ties it to the notes, and the rest is to
see that nothing but ticks has to do with beeps.
-/

namespace Chip8

/-! ## Notes of beeps -/

namespace Note

/-- Whether a note tells that the handler of beeps was called. -/
def isCall : Note → Bool
  | handlerCalled _ => true
  | _ => false

/-- Whether a note has nothing to do with beeps. -/
def isPlain : Note → Bool
  | beep | handlerCalled _ => false
  | _ => true

end Note

/-- Notes tell of so many beeps, and of a call for each of them if there is a handler. -/
structure Delivers (onBeep : BeepHandler) (notes : List Note) (beeps : Nat) : Prop where
  beeps_eq : notes.count .beep = beeps
  calls_eq : notes.countP Note.isCall = if onBeep = .absent then 0 else beeps

section Notes

variable {onBeep : BeepHandler} {first second : List Note} {beeps further : Nat}

theorem Delivers.append (delivers : Delivers onBeep first beeps)
    (later : Delivers onBeep second further) :
    Delivers onBeep (first ++ second) (beeps + further) where
  beeps_eq := by rw [List.count_append, delivers.beeps_eq, later.beeps_eq]
  calls_eq := by
    rw [List.countP_append, delivers.calls_eq, later.calls_eq]
    split <;> rfl

theorem delivers_nil (onBeep : BeepHandler) : Delivers onBeep [] 0 where
  beeps_eq := rfl
  calls_eq := (ite_self _).symm

theorem delivers_of_plain (plain : ∀ note ∈ first, note.isPlain = true) :
    Delivers onBeep first 0 where
  beeps_eq := List.count_eq_zero.mpr fun among => absurd (plain .beep among) (by decide)
  calls_eq := by
    have uncalled : ∀ note ∈ first, ¬ note.isCall = true := by
      intro note among
      have apart := plain note among
      cases note with
      | handlerCalled => contradiction
      | _ => exact Bool.false_ne_true
    rw [List.countP_eq_zero.mpr uncalled, ite_self]

end Notes

/-- The sound timer is about to run out: the next tick makes a beep due. -/
def State.soundEnds (state : State) : Bool :=
  state.soundTimer == 1

/-! ## Ticks -/

theorem toNat_countDown (timer : UInt8) : (countDown timer).toNat = timer.toNat - 1 := by
  unfold countDown
  split
  · next positive =>
    have one : (1 : UInt8) ≤ timer :=
      UInt8.le_iff_toNat_le.mpr (UInt8.lt_iff_toNat_lt.mp positive)
    exact UInt8.toNat_sub_of_le _ _ one
  · next zero =>
    have stays := UInt8.le_iff_toNat_le.mp (UInt8.not_lt.mp zero)
    simp only [UInt8.reduceToNat] at stays
    omega

namespace Machine

/-- The states that ticks find, one after the other: as many ticks as are asked for, or up to the
first that fails. -/
def tickedStates (machine : Machine) : Nat → List State
  | 0 => []
  | count + 1 =>
    machine.state :: match machine.tick.result with
      | .ok () => machine.tick.machine.tickedStates count
      | .error _ => []

variable {machine : Machine}

/-- A tick leaves no beep due, whatever becomes of the handler. -/
theorem state_tick (machine : Machine) :
    machine.tick.machine.state = machine.state.tick.takeBeep.1 := by
  simp only [tick, deliverBeep]
  split
  · rw [machine_callHandler]
  · rfl

/-- A tick takes the mark of a due beep down, even if there was one before. -/
theorem silent_tick (machine : Machine) : machine.tick.machine.state.beep = false := by
  rw [state_tick]
  rfl

theorem delivers_tick (silent : machine.state.beep = false) :
    Delivers machine.onBeep machine.tick.notes ([machine.state].countP State.soundEnds) := by
  have due : machine.state.tick.takeBeep.2 = machine.state.soundEnds := by
    simp [State.tick, State.takeBeep, State.soundEnds, silent]
  cases ends : machine.state.soundEnds with
  | true =>
    rw [ends] at due
    simp only [tick, deliverBeep, due, if_true, callHandler, done]
    rw [List.countP_singleton, ends]
    cases machine.onBeep <;> exact ⟨rfl, rfl⟩
  | false =>
    rw [ends] at due
    simp only [tick, deliverBeep, due, Bool.false_eq_true, if_false, done]
    rw [List.countP_singleton, ends]
    exact delivers_nil _

theorem silent_ticks (silent : machine.state.beep = false) (count : Nat) :
    (machine.ticks count).machine.state.beep = false :=
  ticks_preserves (fun after => after.state.beep = false) (fun before _ => before.silent_tick)
    silent count

/-- Ticks deliver a beep for each of them that finds the sound timer at one. -/
theorem delivers_ticks (silent : machine.state.beep = false) (count : Nat) :
    Delivers machine.onBeep (machine.ticks count).notes
      ((machine.tickedStates count).countP State.soundEnds) := by
  induction count generalizing machine with
  | zero => exact delivers_nil _
  | succ count ih =>
    have first := delivers_tick silent
    cases result : machine.tick.result with
    | ok =>
      rw [ticks, Outcome.andThen_of_ok _ result]
      simp only [tickedStates, result]
      rw [← List.singleton_append, List.countP_append]
      have later := ih machine.silent_tick
      rw [onBeep_tick] at later
      exact first.append later
    | error failure =>
      -- the handler failed, so no tick follows
      rw [ticks, Outcome.andThen_of_error _ result]
      simp only [tickedStates, result]
      exact first

end Machine

/-! ## Other operations -/

/-- Cycles make no beep due. -/
theorem State.silent_steps {state : State} (silent : state.beep = false) (count : Nat) :
    (steps count state).beep = false :=
  @steps_preserves (fun state => state.beep = false)
    (fun state quiet => state.beep_step.trans quiet) count state silent

namespace Machine

variable {machine : Machine} (around : Surroundings)

theorem silent_load (silent : machine.state.beep = false) (program : Program) :
    (machine.load around program).machine.state.beep = false := by
  rcases machine.load_cases around program with ⟨failure, same⟩ | ⟨loaded, size, placed, same⟩
  · rw [same]
    exact silent
  · obtain ⟨memory, rfl⟩ := Program.memory_of_load placed
    rw [same]
    exact silent

theorem silent_reset (machine : Machine) : (machine.reset around).machine.state.beep = false := by
  simp only [reset]
  split
  · rfl
  · split
    · next placed =>
      obtain ⟨memory, rfl⟩ := Program.memory_of_load placed
      rfl
    · rfl

theorem silent_setKeypad (silent : machine.state.beep = false) (keys : Nested Bool) :
    (machine.setKeypad keys).machine.state.beep = false := by
  rcases State.setKeypad_eq keys with ⟨keypad, taken⟩ | ⟨failure, refused⟩
  · rw [setKeypad, taken]
    exact silent
  · rw [setKeypad, refused]
    exact silent

theorem plain_checkFault (machine : Machine) :
    ∀ note ∈ machine.checkFault.notes, note.isPlain = true := by
  unfold checkFault
  split
  · exact List.forall_mem_nil _
  · exact List.forall_mem_singleton.mpr rfl

theorem plain_cycles (machine : Machine) (count : Nat) :
    ∀ note ∈ (machine.cycles around count).notes, note.isPlain = true := by
  cases count with
  | zero => exact List.forall_mem_nil _
  | succ count =>
    obtain ⟨traced, instructions, slowly⟩ := machine.cycles_succ around count
    rw [slowly]
    intro note among
    rcases List.mem_append.mp among with instruction | checked
    · obtain ⟨pc, word, rfl⟩ := instructions note instruction
      rfl
    · exact plain_checkFault _ note checked

theorem plain_run (machine : Machine) (count : Int) :
    ∀ note ∈ (machine.run around count).notes, note.isPlain = true :=
  plain_checkFault _

theorem plain_runWithProgress {ω : Type} (machine : Machine) (count : Int) :
    ∀ note ∈ (machine.runWithProgress (ω := ω) around count).notes, note.isPlain = true := by
  unfold runWithProgress
  split
  · exact List.forall_mem_nil _
  · rw [Outcome.notes_andThen _ fun _ _ => rfl]
    exact plain_checkFault _

theorem plain_load (machine : Machine) (program : Program) :
    ∀ note ∈ (machine.load around program).notes, note.isPlain = true := by
  rcases machine.load_cases around program with ⟨failure, same⟩ | ⟨loaded, size, -, same⟩
  · rw [same]
    exact List.forall_mem_nil _
  · rw [same]
    exact List.forall_mem_singleton.mpr rfl

theorem plain_reset (machine : Machine) :
    ∀ note ∈ (machine.reset around).notes, note.isPlain = true := by
  simp only [reset]
  split
  · exact List.forall_mem_nil _
  · split <;> exact List.forall_mem_nil _

theorem plain_setKeypad (machine : Machine) (keys : Nested Bool) :
    ∀ note ∈ (machine.setKeypad keys).notes, note.isPlain = true := by
  unfold setKeypad
  split <;> exact List.forall_mem_nil _

end Machine

/-! ## Histories -/

namespace Session

/-- The states that the ticks of a happening find, one after the other. -/
def ticked (session : Session) : Happening → List State
  | .tick => [session.machine.state]
  | .updateTimers =>
    match session.machine.due? session.around with
    | some (count, accounted) =>
      { session.machine with timersAt := some accounted }.tickedStates (min count Machine.tickLimit)
    | none => []
  | _ => []

/-- The states that all ticks of a history find. -/
def tickedIn (session : Session) : List Happening → List State
  | [] => []
  | happening :: rest =>
    session.ticked happening ++ (session.perform happening).session.tickedIn rest

variable {session : Session}

/-- Whatever happens, also in vain, no beep is left due. -/
theorem silent_perform (silent : session.machine.state.beep = false) (happening : Happening) :
    (session.perform happening).session.machine.state.beep = false := by
  cases happening with
  | load program => exact Machine.silent_load session.around silent program
  | reset => exact session.machine.silent_reset session.around
  | setKeypad keys => exact Machine.silent_setKeypad silent keys
  | tick => exact session.machine.silent_tick
  | updateTimers =>
    change (session.machine.updateTimers session.around).machine.state.beep = false
    cases due : session.machine.due? session.around with
    | none =>
      rw [Machine.machine_updateTimers_of_idle due]
      exact silent
    | some both =>
      rw [Machine.machine_updateTimers_of_due due]
      exact @Machine.silent_ticks { session.machine with timersAt := some both.2 } silent
        (min both.1 Machine.tickLimit)
  | clockReads | fileAppears | fileVanishes => exact silent
  | cycles count =>
    have ran := session.machine.state_cycles session.around count
    exact (congrArg State.beep ran).trans (State.silent_steps silent count)
  | run count =>
    have ran := session.machine.state_run session.around count
    exact (congrArg State.beep ran).trans (State.silent_steps silent count.toNat)
  | runWithProgress count =>
    obtain ⟨cycles, ran⟩ := session.machine.state_runWithProgress (ω := Unit) session.around count
    exact (congrArg State.beep ran).trans (State.silent_steps silent cycles)
  | takeFrame =>
    change session.machine.state.takeFrame.1.beep = false
    unfold State.takeFrame
    split <;> exact silent

/-- A happening delivers a beep for each of its ticks that finds the sound timer at one. -/
theorem delivers_perform (silent : session.machine.state.beep = false) (happening : Happening) :
    Delivers session.machine.onBeep (session.perform happening).notes
      ((session.ticked happening).countP State.soundEnds) := by
  cases happening with
  | tick => exact Machine.delivers_tick silent
  | updateTimers =>
    change Delivers session.machine.onBeep (session.machine.updateTimers session.around).notes _
    cases due : session.machine.due? session.around with
    | none =>
      obtain ⟨result, same⟩ := Machine.updateTimers_of_idle due
      simp only [same, ticked, due]
      exact delivers_nil _
    | some both =>
      simp only [ticked, due, Machine.updateTimers_of_due due]
      rw [Outcome.notes_andThen _ fun _ _ => rfl]
      exact @Machine.delivers_ticks { session.machine with timersAt := some both.2 } silent
        (min both.1 Machine.tickLimit)
  | load program => exact delivers_of_plain (session.machine.plain_load session.around program)
  | reset => exact delivers_of_plain (session.machine.plain_reset session.around)
  | cycles count => exact delivers_of_plain (session.machine.plain_cycles session.around count)
  | run count => exact delivers_of_plain (session.machine.plain_run session.around count)
  | runWithProgress count =>
    exact delivers_of_plain (session.machine.plain_runWithProgress session.around count)
  | setKeypad keys => exact delivers_of_plain (session.machine.plain_setKeypad keys)
  | takeFrame | clockReads | fileAppears | fileVanishes => exact delivers_nil _

theorem silent_replies (silent : session.machine.state.beep = false) (history : List Happening) :
    ∀ reply ∈ session.replies history, reply.session.machine.state.beep = false := by
  induction history generalizing session with
  | nil => exact List.forall_mem_nil _
  | cons happening rest ih =>
    have first := silent_perform silent happening
    rw [replies, List.forall_mem_cons]
    exact ⟨first, ih first⟩

theorem silent_after (silent : session.machine.state.beep = false) (history : List Happening) :
    (session.after history).machine.state.beep = false := by
  induction history generalizing session with
  | nil => exact silent
  | cons happening rest ih => exact ih (silent_perform silent happening)

theorem onBeep_perform (session : Session) (happening : Happening) :
    (session.perform happening).session.machine.onBeep = session.machine.onBeep := by
  obtain ⟨_, _, kept⟩ := session.machine_perform happening
  rw [kept]

/-- A history delivers a beep for each of its ticks that finds the sound timer at one. -/
theorem delivers_replies (silent : session.machine.state.beep = false) (history : List Happening) :
    Delivers session.machine.onBeep ((session.replies history).flatMap Reply.notes)
      ((session.tickedIn history).countP State.soundEnds) := by
  induction history generalizing session with
  | nil => exact delivers_nil _
  | cons happening rest ih =>
    have later := ih (silent_perform silent happening)
    rw [onBeep_perform] at later
    rw [replies, List.flatMap_cons, tickedIn, List.countP_append]
    exact (delivers_perform silent happening).append later

/-! ## Ticks in a row -/

theorem soundTimer_tick (session : Session) :
    (session.perform .tick).session.machine.state.soundTimer.toNat =
      session.machine.state.soundTimer.toNat - 1 := by
  change session.machine.tick.machine.state.soundTimer.toNat = _
  rw [Machine.state_tick]
  exact toNat_countDown session.machine.state.soundTimer

/-- Of ticks in a row, the one that finds the sound timer at one is the last that it runs. -/
theorem soundEnds_in_row (session : Session) (count : Nat) :
    let timer := session.machine.state.soundTimer.toNat
    (session.tickedIn (List.replicate count .tick)).countP State.soundEnds =
        (if 1 ≤ timer ∧ timer ≤ count then 1 else 0) ∧
      (session.after (List.replicate count .tick)).machine.state.soundTimer.toNat =
        timer - count := by
  intro timer
  induction count generalizing session with
  | zero =>
    refine ⟨?_, rfl⟩
    rw [if_neg (by omega)]
    rfl
  | succ count ih =>
    obtain ⟨ends, runs⟩ := ih (session.perform .tick).session
    rw [soundTimer_tick] at ends runs
    have first : ([session.machine.state].countP State.soundEnds) = if timer = 1 then 1 else 0 := by
      simp [State.soundEnds, timer, ← UInt8.toNat_inj]
    refine ⟨?_, ?_⟩
    · rw [List.replicate_succ, tickedIn, List.countP_append, ends]
      change [session.machine.state].countP State.soundEnds + _ = _
      rw [first]
      split <;> split <;> split <;> omega
    · rw [List.replicate_succ]
      refine Eq.trans runs ?_
      omega

end Session

/-! ## Lines of beeps -/

namespace Note

/-- Whether a note goes to the log. What a handler writes does not. -/
def isLogged : Note → Bool
  | handlerCalled _ => false
  | _ => true

end Note

namespace Logger

variable (logger : Logger) (now : Float)

/-- What is printed of a message at an enabled level is no line of a beep unless the message is. -/
theorem log_ne_beep (enabled : logger.isEnabledFor Level.info.name = true) {level : Level}
    {message : String} (other : level ≠ .info ∨ message ≠ "BEEP") :
    logger.log now level.name message ≠ logger.beep now := by
  have shown : logger.beep now = logger.format now Level.info.name "BEEP" ++ "\n" := by
    simp only [beep, log, enabled, if_true]
  rw [shown, log]
  split
  · intro same
    have lines := (String.append_left_inj _).mp same
    rcases other with other | other
    · exact logger.format_apart now other message "BEEP" lines
    · by_cases info : level = .info
      · subst info
        exact other (logger.format_injective now _ lines)
      · exact logger.format_apart now info message "BEEP" lines
  · intro same
    have width := congrArg String.length same
    have ending : "\n".length = 1 := by decide
    rw [String.length_append, ending, String.length_empty] at width
    omega

theorem print_ne_beep (enabled : logger.isEnabledFor Level.info.name = true) {note : Note}
    (logged : note.isLogged = true) (other : note ≠ .beep) :
    logger.print now note ≠ logger.beep now := by
  cases note with
  | programLoaded source size =>
    rw [print, programLoaded]
    refine logger.log_ne_beep now enabled (.inr fun same => ?_)
    have heads := congrArg (fun text => text.toList.head?) same
    simp [String.toList_append] at heads
  | instruction pc word =>
    rw [print, instruction]
    exact logger.log_ne_beep now enabled (.inl (by decide))
  | stopped error =>
    rw [print, stopped]
    exact logger.log_ne_beep now enabled (.inl (by decide))
  | beep => exact absurd rfl other
  | handlerCalled text => simp [Note.isLogged] at logged

/-- Among the lines of notes, those of beeps are as many as the notes of beeps. -/
theorem count_beep_lines (enabled : logger.isEnabledFor Level.info.name = true)
    (notes : List Note) :
    ((notes.filter Note.isLogged).map (logger.print now)).count (logger.beep now) =
      notes.count .beep := by
  induction notes with
  | nil => rfl
  | cons note rest ih =>
    by_cases beeps : note = .beep
    · subst beeps
      rw [List.filter_cons_of_pos rfl, List.map_cons, print, List.count_cons_self,
        List.count_cons_self, ih]
    · rw [List.count_cons_of_ne beeps]
      cases logged : note.isLogged with
      | true =>
        rw [List.filter_cons_of_pos logged, List.map_cons,
          List.count_cons_of_ne (logger.print_ne_beep now enabled logged beeps), ih]
      | false => rw [List.filter_cons_of_neg (by simp [logged]), ih]

end Logger

/-- The lines of a reply that tell of a beep. What a handler writes is no line. -/
def Reply.beepLines (reply : Reply) : List String :=
  let logger := reply.session.machine.logger
  let now := reply.session.now
  ((reply.notes.filter Note.isLogged).map (logger.print now)).filter (· == logger.beep now)

namespace Session

theorem logger_perform (session : Session) (happening : Happening) :
    (session.perform happening).session.machine.logger = session.machine.logger := by
  obtain ⟨_, _, kept⟩ := session.machine_perform happening
  rw [kept]

theorem logger_replies (session : Session) (history : List Happening) :
    ∀ reply ∈ session.replies history, reply.session.machine.logger = session.machine.logger := by
  induction history generalizing session with
  | nil => exact List.forall_mem_nil _
  | cons happening rest ih =>
    have kept := session.logger_perform happening
    rw [replies, List.forall_mem_cons]
    refine ⟨kept, fun reply among => ?_⟩
    exact (ih (session.perform happening).session reply among).trans kept

/-- What a host sees written is what the first logger prints of the notes, piece by piece. -/
theorem written_replies (session : Session) (history : List Happening) :
    ∀ reply ∈ session.replies history, reply.written =
      String.join (reply.notes.map (session.machine.logger.print reply.session.now)) := by
  intro reply among
  rw [Reply.written, session.logger_replies history reply among, Logger.printAll]

/-- At information level and below, every beep that is noted leaves a line. -/
theorem length_beepLines {session : Session}
    (enabled : session.machine.logger.isEnabledFor Level.info.name = true)
    (history : List Happening) :
    ((session.replies history).flatMap Reply.beepLines).length =
      ((session.replies history).flatMap Reply.notes).count .beep := by
  induction history generalizing session with
  | nil => rfl
  | cons happening rest ih =>
    have shown : (session.perform happening).session.machine.logger.isEnabledFor Level.info.name =
        true := by rwa [logger_perform]
    rw [replies, List.flatMap_cons, List.length_append, List.flatMap_cons, List.count_append,
      ih shown, Reply.beepLines, ← List.count_eq_length_filter, Logger.count_beep_lines _ _ shown]

end Session

end Chip8
