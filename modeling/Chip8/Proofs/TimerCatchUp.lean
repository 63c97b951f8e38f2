import Chip8.Proofs.Beeps

/-!
# Catching up with the clock

An update applies the ticks that are due by the clock, and at most `Machine.tickLimit` of them. No
more are needed. Ticks that all succeed run both timers down by as many (`Machine.runsDown_ticks`),
so after that many both timers stand at zero and no beep is due, and every further tick changes
nothing and tells nothing (`Machine.ticks_of_still`). If a tick fails on the way, it ends the ticks
in either case.
-/

namespace Chip8

/-! ## Laws of outcomes -/

namespace Outcome

variable {α β γ : Type}

theorem andThen_assoc (first : Outcome α) (second : Machine → α → Outcome β)
    (third : Machine → β → Outcome γ) :
    (first.andThen second).andThen third =
      first.andThen fun next value => (second next value).andThen third := by
  cases began : first.result with
  | error failure => simp only [andThen, began]
  | ok value =>
    cases went : (second first.machine value).result with
    | error failure => simp only [andThen, began, went]
    | ok answer => simp only [andThen, began, went, List.append_assoc]

/-- Doing nothing afterwards makes no difference. -/
theorem andThen_done (outcome : Outcome Unit) :
    (outcome.andThen fun next _ => next.done) = outcome := by
  cases result : outcome.result with
  | error failure =>
    rw [andThen_of_error _ result, ← result]
  | ok value =>
    rw [andThen_of_ok _ result]
    simp only [Machine.done, List.append_nil]
    rw [← show outcome.result = .ok () from result]

theorem andThen_congr_of_ok {first : Outcome α} {rest other : Machine → α → Outcome β}
    (alike : ∀ value, first.result = .ok value →
      rest first.machine value = other first.machine value) :
    first.andThen rest = first.andThen other := by
  cases result : first.result with
  | error failure => rw [andThen_of_error rest result, andThen_of_error other result]
  | ok value => rw [andThen_of_ok rest result, andThen_of_ok other result, alike value result]

end Outcome

/-! ## Timers run down -/

/-- From one state to a later one, both timers have run down by so many ticks. -/
structure RunsDown (before after : State) (ticks : Nat) : Prop where
  delay_eq : after.delayTimer.toNat = before.delayTimer.toNat - ticks
  sound_eq : after.soundTimer.toNat = before.soundTimer.toNat - ticks

namespace RunsDown

variable {state middle after : State} {first second : Nat}

theorem refl (state : State) : RunsDown state state 0 := ⟨rfl, rfl⟩

theorem trans (early : RunsDown state middle first) (late : RunsDown middle after second) :
    RunsDown state after (first + second) where
  delay_eq := by rw [late.delay_eq, early.delay_eq, Nat.sub_sub]
  sound_eq := by rw [late.sound_eq, early.sound_eq, Nat.sub_sub]

end RunsDown

/-- Both timers have run out and no beep is due. -/
structure State.Still (state : State) : Prop where
  delay_eq : state.delayTimer = 0
  sound_eq : state.soundTimer = 0
  silent : state.beep = false

namespace Machine

variable {machine : Machine}

theorem runsDown_tick (machine : Machine) :
    RunsDown machine.state machine.tick.machine.state 1 := by
  rw [state_tick]
  exact ⟨toNat_countDown _, toNat_countDown _⟩

/-- Ticks run both timers down by as many as are applied. -/
theorem runsDown_ticks (machine : Machine) (count : Nat) :
    RunsDown machine.state (machine.ticks count).machine.state
      (machine.tickedStates count).length := by
  induction count generalizing machine with
  | zero => exact .refl _
  | succ count ih =>
    have first := machine.runsDown_tick
    cases result : machine.tick.result with
    | ok =>
      rw [ticks, Outcome.andThen_of_ok _ result]
      simp only [tickedStates, result, List.length_cons]
      rw [Nat.add_comm]
      exact first.trans (ih machine.tick.machine)
    | error failure =>
      rw [ticks, Outcome.andThen_of_error _ result]
      simp only [tickedStates, result]
      exact first

/-- Ticks that succeed are all applied. -/
theorem length_tickedStates_of_ok {count : Nat} (success : (machine.ticks count).result = .ok ()) :
    (machine.tickedStates count).length = count := by
  induction count generalizing machine with
  | zero => rfl
  | succ count ih =>
    cases result : machine.tick.result with
    | ok =>
      rw [ticks, Outcome.andThen_of_ok _ result] at success
      simp only [tickedStates, result, List.length_cons]
      rw [ih success]
    | error failure =>
      rw [ticks, Outcome.andThen_of_error _ result] at success
      contradiction

theorem ticks_add (machine : Machine) (first second : Nat) :
    machine.ticks (first + second) =
      (machine.ticks first).andThen fun next _ => next.ticks second := by
  induction first generalizing machine with
  | zero =>
    rw [Nat.zero_add, ticks, Outcome.andThen_of_ok _ rfl]
    rfl
  | succ first ih =>
    rw [Nat.add_right_comm, ticks, ticks, Outcome.andThen_assoc]
    simp only [ih]

/-! ## Still machines -/

theorem state_tick_of_still (still : machine.state.Still) : machine.state.tick = machine.state := by
  obtain ⟨delay, sound, silent⟩ := still
  generalize machine.state = state at *
  cases state
  subst delay sound silent
  rfl

/-- A tick of a still machine changes nothing and tells nothing. -/
theorem tick_of_still (still : machine.state.Still) : machine.tick = machine.done := by
  have taken : machine.state.takeBeep = (machine.state, false) := by
    obtain ⟨delay, sound, silent⟩ := still
    generalize machine.state = state at *
    cases state
    subst silent
    rfl
  rw [tick, state_tick_of_still still]
  simp only [deliverBeep, taken, Bool.false_eq_true, if_false]

theorem ticks_of_still (still : machine.state.Still) (count : Nat) :
    machine.ticks count = machine.done := by
  induction count with
  | zero => rfl
  | succ count ih =>
    rw [ticks, tick_of_still still, Outcome.andThen_of_ok _ rfl]
    simp only [done, List.nil_append]
    exact ih

/-- No beep is due after ticks, even if one was due before them. -/
theorem silent_ticks_succ (machine : Machine) (count : Nat) :
    (machine.ticks (count + 1)).machine.state.beep = false :=
  Outcome.machine_andThen (fun after => after.state.beep = false) machine.silent_tick
    fun _ => silent_ticks machine.silent_tick count

/-- After as many ticks as an update applies at most, if they succeed, a machine is still. -/
theorem still_ticks (success : (machine.ticks tickLimit).result = .ok ()) :
    (machine.ticks tickLimit).machine.state.Still := by
  obtain ⟨delay, sound⟩ := machine.runsDown_ticks tickLimit
  rw [length_tickedStates_of_ok success] at delay sound
  have delayBound := machine.state.delayTimer.toNat_lt
  have soundBound := machine.state.soundTimer.toNat_lt
  refine ⟨?_, ?_, machine.silent_ticks_succ _⟩
  · rw [← UInt8.toNat_inj, delay, tickLimit]
    exact Nat.sub_eq_zero_of_le (by omega)
  · rw [← UInt8.toNat_inj, sound, tickLimit]
    exact Nat.sub_eq_zero_of_le (by omega)

/-- No more ticks than an update applies at most make any difference. -/
theorem ticks_min_tickLimit (machine : Machine) (count : Nat) :
    machine.ticks (min count tickLimit) = machine.ticks count := by
  rcases Nat.le_total count tickLimit with within | beyond
  · rw [Nat.min_eq_left within]
  · obtain ⟨further, rfl⟩ := Nat.exists_eq_add_of_le beyond
    rw [Nat.min_eq_right beyond, ticks_add]
    -- after a failure nothing follows in either case, and after a success the machine is still
    refine Eq.trans (Outcome.andThen_done _).symm (Outcome.andThen_congr_of_ok fun _ success => ?_)
    exact (ticks_of_still (still_ticks success) further).symm

end Machine

/-! ## Handlers that return -/

/-- Whether a handler of beeps returns. -/
def BeepHandler.returns : BeepHandler → Bool
  | absent | writes _ => true
  | fails .. => false

namespace Machine

variable {machine : Machine}

theorem result_tick_of_returns (returns : machine.onBeep.returns = true) :
    machine.tick.result = .ok () := by
  simp only [tick, deliverBeep, callHandler]
  split
  · cases handler : machine.onBeep with
    | absent => rfl
    | writes => rfl
    | fails => simp [handler, BeepHandler.returns] at returns
  · rfl

/-- No tick fails with a handler that returns. -/
theorem result_ticks_of_returns (returns : machine.onBeep.returns = true) (count : Nat) :
    (machine.ticks count).result = .ok () := by
  induction count generalizing machine with
  | zero => rfl
  | succ count ih =>
    rw [ticks, Outcome.andThen_of_ok _ (result_tick_of_returns returns)]
    exact ih (machine.onBeep_tick ▸ returns)

/-- **Catching up.** However many ticks are due, a machine whose handler of beeps returns is left
the same by at most `tickLimit` of them as by all of them, and the notes are the same, so that the
handler is called as often and the same is logged. All ticks succeed and run each timer down by as
many, to zero at the least. An update does to a machine what all ticks do, and only tells how many
it applied. -/
theorem catch_up_unobservable (machine : Machine) (returns : machine.onBeep.returns = true)
    (count : Nat) :
    let capped := machine.ticks (min count tickLimit)
    let all := machine.ticks count
    capped.machine = all.machine ∧ capped.notes = all.notes ∧
    capped.result = .ok () ∧ all.result = .ok () ∧
    all.machine.state.delayTimer.toNat = machine.state.delayTimer.toNat - count ∧
    all.machine.state.soundTimer.toNat = machine.state.soundTimer.toNat - count ∧
    ∀ around accounted, machine.due? around = some (count, accounted) →
      machine.updateTimers around =
        ({ machine with timersAt := some accounted }.ticks count).andThen
          fun next _ => ⟨next, [], .ok (min count tickLimit)⟩ := by
  intro capped all
  have same : capped = all := machine.ticks_min_tickLimit count
  have success : all.result = .ok () := result_ticks_of_returns returns count
  have down := machine.runsDown_ticks count
  rw [length_tickedStates_of_ok success] at down
  refine ⟨congrArg _ same, congrArg _ same, same ▸ success, success, down.delay_eq, down.sound_eq,
    fun around accounted due => ?_⟩
  rw [updateTimers_of_due due, ticks_min_tickLimit]

/-- Five seconds go by while both timers run, so three hundred ticks are due. The sound timer runs
out on the way, and the delay timer before the last tick that is applied. -/
theorem catch_up_unobservable_over_five_seconds :
    let logger : Logger := ⟨"Chip8", "INFO", false, false, false, 0⟩
    let machine := { create ⟨0, 0⟩ logger (.writes "beep") with
      state := { State.fresh ⟨0, 0⟩ with delayTimer := 0xFF, soundTimer := 3 }
      timersAt := some 0 }
    let around : Surroundings := ⟨5, fun _ => .error .notFound⟩
    machine.onBeep.returns = true ∧ (machine.due? around).map Prod.fst = some 300 ∧
      (machine.ticks 3).notes = [.beep, .handlerCalled "beep"] ∧
      (machine.ticks 256).machine = (machine.ticks 300).machine ∧
      (machine.ticks 256).notes = (machine.ticks 300).notes ∧
      (machine.ticks 300).machine.state.delayTimer.toNat = 0 ∧
      (machine.updateTimers around).result = .ok 256 := by
  intro logger machine around
  have returns : machine.onBeep.returns = true := rfl
  have beeps : (machine.ticks 3).notes = [.beep, .handlerCalled "beep"] := by decide +kernel
  have counted : (machine.due? around).map Prod.fst = some 300 := by decide +kernel
  obtain ⟨⟨count, accounted⟩, due, rfl⟩ := Option.map_eq_some_iff.mp counted
  obtain ⟨reached, noted, -, -, delay, -, updates⟩ :=
    catch_up_unobservable machine returns 300
  have limit : min 300 tickLimit = 256 := rfl
  rw [limit] at reached noted
  refine ⟨returns, counted, beeps, reached, noted, delay.trans (by decide +kernel), ?_⟩
  have ticked := @result_ticks_of_returns { machine with timersAt := some accounted } returns 300
  rw [updates around accounted due, Outcome.andThen_of_ok _ ticked, limit]

end Machine

end Chip8
