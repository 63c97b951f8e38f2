import Mathlib.Control.Monad.Basic
import Chip8.Proofs.TimerCatchUp

/-!
# Ticks lost to a failing handler

An update takes all the ticks that are due to be accounted for, and only then applies them one by
one. A handler that fails on a beep ends it there: the tick of the beep is the last one that is
applied (`Machine.ticks_of_fails`), and those after it are not made up for, because by the clock
they are no longer due. So both timers run late, unless they stand at zero anyway
(`Machine.failing_beep_loses_ticks`).
-/

namespace Chip8

/-- The tick that delivers the next beep, counted from one; zero if no beep is on its way. -/
def State.beepTick (state : State) : Nat :=
  if state.beep then 1 else state.soundTimer.toNat

namespace Machine

variable {machine : Machine} {written failure : String}

/-! ## Ticks -/

/-- Whether a tick delivers a beep. -/
theorem takeBeep_tick (state : State) :
    state.tick.takeBeep.2 = decide (state.beepTick = 1) := by
  rw [Bool.eq_iff_iff, decide_eq_true_eq]
  cases marked : state.beep <;>
    simp [State.tick, State.takeBeep, State.beepTick, marked, ← UInt8.toNat_inj]

theorem result_tick_of_fails (fails : machine.onBeep = .fails written failure) :
    machine.tick.result =
      if machine.state.beepTick = 1 then .error (.handler failure) else .ok () := by
  simp only [tick, deliverBeep, takeBeep_tick, decide_eq_true_eq, callHandler, fails]
  split <;> rfl

/-- Each tick before a beep brings it nearer by one. -/
theorem beepTick_tick (later : machine.state.beepTick ≠ 1) :
    machine.tick.machine.state.beepTick = machine.state.beepTick - 1 := by
  have unmarked : machine.state.beep = false := by
    cases marked : machine.state.beep with
    | true => simp [State.beepTick, marked] at later
    | false => rfl
  simp only [State.beepTick, machine.silent_tick, unmarked, Bool.false_eq_true, if_false]
  exact machine.runsDown_tick.sound_eq

/-- With a handler that fails, the tick that delivers a beep is the last one. -/
theorem ticks_of_fails (fails : machine.onBeep = .fails written failure) (count : Nat) :
    let beep := machine.state.beepTick
    ((machine.ticks count).result =
      if 1 ≤ beep ∧ beep ≤ count then .error (.handler failure) else .ok ()) ∧
    (machine.tickedStates count).length = if 1 ≤ beep ∧ beep ≤ count then beep else count := by
  intro beep
  induction count generalizing machine with
  | zero =>
    have none : ¬ (1 ≤ beep ∧ beep ≤ 0) := by omega
    rw [if_neg none, if_neg none]
    exact ⟨rfl, rfl⟩
  | succ count ih =>
    -- the first tick delivers the beep and fails, or brings it nearer for those that follow
    have first := result_tick_of_fails fails
    by_cases now : machine.state.beepTick = 1
    · rw [if_pos now] at first
      have within : 1 ≤ beep ∧ beep ≤ count + 1 := by omega
      rw [if_pos within, if_pos within, ticks, Outcome.andThen_of_error _ first]
      simp only [tickedStates, first]
      exact ⟨trivial, now.symm⟩
    · rw [if_neg now] at first
      obtain ⟨result, applied⟩ := ih (machine.onBeep_tick.trans fails)
      rw [beepTick_tick now] at result applied
      have shifted : (1 ≤ machine.state.beepTick - 1 ∧ machine.state.beepTick - 1 ≤ count) ↔
          1 ≤ beep ∧ beep ≤ count + 1 := by omega
      rw [ticks, Outcome.andThen_of_ok _ first]
      simp only [tickedStates, first, List.length_cons, result, applied]
      simp only [shifted, true_and]
      split <;> omega

/-! ## Updates -/

/-- The number of ticks that an update applies, also if it fails. -/
def appliedTicks (machine : Machine) (around : Surroundings) : Nat :=
  match machine.due? around with
  | some (count, accounted) =>
    ({ machine with timersAt := some accounted }.tickedStates (min count tickLimit)).length
  | none => 0

theorem runsDown_updateTimers (machine : Machine) (around : Surroundings) :
    RunsDown machine.state (machine.updateTimers around).machine.state
      (machine.appliedTicks around) := by
  cases due : machine.due? around with
  | none =>
    simp only [machine_updateTimers_of_idle due, appliedTicks, due]
    exact .refl _
  | some both =>
    simp only [machine_updateTimers_of_due due, appliedTicks, due]
    exact runsDown_ticks { machine with timersAt := some both.2 } (min both.1 tickLimit)

/-- The machine after so many updates at one reading of the clock, whether or not they fail. -/
def updated (machine : Machine) (around : Surroundings) : Nat → Machine
  | 0 => machine
  | calls + 1 => ((machine.updated around calls).updateTimers around).machine

/-- The number of ticks that so many updates apply. -/
def appliedWithin (machine : Machine) (around : Surroundings) : Nat → Nat
  | 0 => 0
  | calls + 1 =>
    machine.appliedWithin around calls + (machine.updated around calls).appliedTicks around

theorem runsDown_updated (machine : Machine) (around : Surroundings) (calls : Nat) :
    RunsDown machine.state (machine.updated around calls).state
      (machine.appliedWithin around calls) := by
  induction calls with
  | zero => exact .refl _
  | succ calls ih => exact ih.trans ((machine.updated around calls).runsDown_updateTimers around)

/-- When nothing is due, updates change nothing. -/
theorem updated_of_idle {around : Surroundings} (idle : machine.due? around = none)
    (calls : Nat) : machine.updated around calls = machine := by
  induction calls with
  | zero => rfl
  | succ calls ih => rw [updated, ih, machine_updateTimers_of_idle idle]

theorem appliedWithin_of_idle {around : Surroundings} (idle : machine.due? around = none)
    (calls : Nat) : machine.appliedWithin around calls = 0 := by
  induction calls with
  | zero => rfl
  | succ calls ih =>
    simp only [appliedWithin, ih, updated_of_idle idle, appliedTicks, idle]

/-- **A failing handler loses ticks.** Let some ticks be due, and no more than an update applies.
With a handler that fails, an update fails if one of them delivers a beep. Either way all of them
are accounted for, but those after the beep are not applied, and never will be: however many updates
follow at the same reading, the timers have run down by the ticks up to the beep and by what the
clock finds due again, which is nothing if no tick is due then. They stand where as many ticks as
were due would leave them just if these numbers are equal, or if both timers have run out either
way. -/
theorem failing_beep_loses_ticks (machine : Machine) (around : Surroundings)
    (fails : machine.onBeep = .fails written failure) {count : Nat} {accounted : Float}
    (due : machine.due? around = some (count, accounted)) (few : count ≤ tickLimit) :
    let delay := machine.state.delayTimer.toNat
    let sound := machine.state.soundTimer.toNat
    let beep := machine.state.beepTick
    let first := machine.updateTimers around
    (first.result =
      if 1 ≤ beep ∧ beep ≤ count then .error (.handler failure) else .ok count) ∧
    first.machine.timersAt = some accounted ∧
    ∀ calls,
      let settled := (first.machine.updated around calls).state
      let applied := (if 1 ≤ beep ∧ beep ≤ count then beep else count)
        + first.machine.appliedWithin around calls
      settled.delayTimer.toNat = delay - applied ∧ settled.soundTimer.toNat = sound - applied ∧
      (settled.delayTimer.toNat = delay - count ∧ settled.soundTimer.toNat = sound - count ↔
        applied = count ∨ delay ≤ min applied count ∧ sound ≤ min applied count) ∧
      (first.machine.due? around = none → first.machine.appliedWithin around calls = 0) := by
  intro delay sound beep first
  obtain ⟨result, applied⟩ :=
    @ticks_of_fails { machine with timersAt := some accounted } written failure fails count
  have once : machine.appliedTicks around = if 1 ≤ beep ∧ beep ≤ count then beep else count := by
    simp only [appliedTicks, due, Nat.min_eq_left few]
    exact applied
  have same : first = _ := updateTimers_of_due due
  rw [Nat.min_eq_left few] at same
  refine ⟨?_, ?_, fun calls => ?_⟩
  · rw [same]
    split
    · next beeps =>
      rw [if_pos beeps] at result
      rw [Outcome.andThen_of_error _ result]
    · next quiet =>
      rw [if_neg quiet] at result
      rw [Outcome.andThen_of_ok _ result]
  · rw [machine_updateTimers_of_due due]
    exact timersAt_ticks { machine with timersAt := some accounted } _
  · -- the timers run down by the ticks of the first update and then by those of the others
    intro settled applied
    obtain ⟨delayed, sounded⟩ :=
      (machine.runsDown_updateTimers around).trans (first.machine.runsDown_updated around calls)
    rw [once] at delayed sounded
    refine ⟨delayed, sounded, ?_, fun idle => appliedWithin_of_idle idle calls⟩
    rw [delayed, sounded]
    omega

/-- Five ticks are due, and the third delivers a beep to a handler that fails. The next update finds
nothing due, and the delay timer stays two ticks behind. -/
theorem failing_beep_loses_ticks_after_third :
    let logger : Logger := ⟨"Chip8", "INFO", false, false, false, 0⟩
    let machine := { create ⟨0, 0⟩ logger (.fails "" "RuntimeError: boom") with
      state := { State.fresh ⟨0, 0⟩ with delayTimer := 10, soundTimer := 3 }
      timersAt := some 0 }
    let around : Surroundings := ⟨0.09, fun _ => .error .notFound⟩
    let first := machine.updateTimers around
    machine.onBeep = .fails "" "RuntimeError: boom" ∧
      (machine.due? around).map Prod.fst = some 5 ∧ 5 ≤ tickLimit ∧
      first.result = .error (.handler "RuntimeError: boom") ∧
      (first.machine.updateTimers around).result = .ok 0 ∧
      (first.machine.updated around 1).state.delayTimer.toNat = 7 := by
  intro logger machine around first
  have counted : (machine.due? around).map Prod.fst = some 5 := by decide +kernel
  have settles : (first.machine.updateTimers around).result = .ok 0 ∧
      (first.machine.due? around).isNone = true := by decide +kernel
  obtain ⟨⟨count, accounted⟩, due, rfl⟩ := Option.map_eq_some_iff.mp counted
  obtain ⟨result, -, settled⟩ := failing_beep_loses_ticks machine around rfl due (by decide)
  obtain ⟨delay, -, -, idle⟩ := settled 1
  have nothing := idle (Option.isNone_iff_eq_none.mp settles.2)
  refine ⟨rfl, counted, by decide, result, settles.1, ?_⟩
  rw [delay, nothing]
  rfl

end Machine

namespace Session

/-- A program sets the delay timer to ten and the sound timer to one, and then five ticks are due.
The handler fails on the beep of the first. The next update finds nothing due, and the delay timer
stands at nine. -/
theorem delay_late_after_failing_beep :
    let logger : Logger := ⟨"Chip8", "INFO", false, false, false, 0⟩
    let start : Session :=
      ⟨.create ⟨0, 0⟩ logger (.fails "<on_beep>\n" "RuntimeError: beep failed"), 0, Files.empty⟩
    let session := start.after
      [.load (.bytes [0x6A, 0x0A, 0xFA, 0x15, 0x6A, 0x01, 0xFA, 0x18]), .cycles 4, .clockReads 0.09]
    let first := session.machine.updateTimers session.around
    let second := first.machine.updateTimers session.around
    (session.machine.due? session.around).map Prod.fst = some 5 ∧
      session.machine.state.delayTimer.toNat = 10 ∧ session.machine.state.soundTimer.toNat = 1 ∧
      first.result = .error (.handler "RuntimeError: beep failed") ∧ second.result = .ok 0 ∧
      second.machine.state.delayTimer.toNat = 9 ∧
      second.machine.state.delayTimer.toNat ≠ 10 - 5 := by
  decide +kernel

end Session

end Chip8
