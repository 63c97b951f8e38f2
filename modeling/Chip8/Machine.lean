import Chip8.Inputs
import Chip8.Note
import Chip8.Progress
import Chip8.TimerClock

/-!
# Machine in its surroundings

A machine holds a state, knows the program that a reset loads again, ticks its timers by a clock and
tells a handler of each beep. What is around it, the reading of the clock and what files hold, is
handed to each operation.

Every operation yields an `Outcome`: the machine as it is afterwards, notes of what happened, and a
result or a failure. A failure does not undo: the machine of its outcome is what the operation had
reached.
-/

namespace Chip8

/-- What happens on a beep: what the handler writes, and how it fails if it does. -/
inductive BeepHandler where
  | absent
  | writes (text : String)
  | fails (written failure : String)
deriving DecidableEq, Repr

/-- What a machine finds around it. -/
structure Surroundings where
  /-- The reading of the clock, in seconds. -/
  now : Float
  /-- What comes of reading the file of a name. -/
  readFile : String → Except FileError (List UInt8)

/-! ## Programs -/

/-- Where a program comes from. -/
inductive Program where
  | bytes (data : List UInt8)
  /-- A file, read anew whenever the program is loaded. -/
  | file (name : String)
deriving DecidableEq, Repr

namespace Program

/-- What notes call the source of the program. -/
def source : Program → String
  | bytes _ => "program"
  | file name => name

/-- The bytes of the program. -/
def read (program : Program) (around : Surroundings) : Except Failure (List UInt8) :=
  match program with
  | bytes data => .ok data
  | file name =>
    if name.contains (Char.ofNat 0) then .error .zeroInName
    else match around.readFile name with
      | .ok data => .ok data
      | .error cause => .error (.machine (.unreadable name cause))

/-- A state with the program in memory, and the size of the program. -/
def load (program : Program) (around : Surroundings) (state : State) :
    Except Failure (State × Nat) := do
  let data ← program.read around
  let loaded ← state.loadProgram data
  return (loaded, data.length)

end Program

/-! ## Machines and outcomes -/

structure Machine where
  /-- The key of random numbers that a reset starts from. -/
  seed : Random.Pair
  logger : Logger
  onBeep : BeepHandler
  state : State
  /-- What a reset loads again. -/
  program : Option Program
  /-- The time up to which timer ticks were applied; none until a cycle has run. -/
  timersAt : Option Float

/-- What an operation leaves behind. -/
structure Outcome (α : Type) where
  machine : Machine
  notes : List Note
  result : Except Failure α

namespace Outcome

variable {α β : Type}

/-- Goes on after a success; a failure ends the whole. -/
def andThen (first : Outcome α) (rest : Machine → α → Outcome β) : Outcome β :=
  match first.result with
  | .ok value =>
    let second := rest first.machine value
    { second with notes := first.notes ++ second.notes }
  | .error failure => ⟨first.machine, first.notes, .error failure⟩

theorem andThen_of_ok {first : Outcome α} {value : α} (rest : Machine → α → Outcome β)
    (success : first.result = .ok value) :
    first.andThen rest =
      { rest first.machine value with
        notes := first.notes ++ (rest first.machine value).notes } := by
  simp only [andThen, success]

theorem andThen_of_error {first : Outcome α} {failure : Failure}
    (rest : Machine → α → Outcome β) (failed : first.result = .error failure) :
    first.andThen rest = ⟨first.machine, first.notes, .error failure⟩ := by
  simp only [andThen, failed]

end Outcome

namespace Machine

/-- A machine before anything is done to it. -/
def create (seed : Random.Pair) (logger : Logger) (onBeep : BeepHandler) : Machine where
  seed
  logger
  onBeep
  state := State.fresh seed
  program := none
  timersAt := none

/-- Success, with nothing to tell. -/
def done (machine : Machine) : Outcome Unit :=
  ⟨machine, [], .ok ()⟩

/-- Loads a program into memory as it is. A program that cannot be loaded changes nothing. -/
def load (machine : Machine) (around : Surroundings) (program : Program) : Outcome Unit :=
  match program.load around machine.state with
  | .error failure => ⟨machine, [], .error failure⟩
  | .ok (loaded, size) =>
    ⟨{ machine with state := loaded, program := some program, timersAt := none },
      [.programLoaded program.source size], .ok ()⟩

/-- Starts over from a fresh state and loads the last program again. If that fails, the state stays
fresh and the timers keep their time. -/
def reset (machine : Machine) (around : Surroundings) : Outcome Unit :=
  let fresh := State.fresh machine.seed
  match machine.program with
  | none => done { machine with state := fresh, timersAt := none }
  | some program =>
    match program.load around fresh with
    | .ok (loaded, _) => done { machine with state := loaded, timersAt := none }
    | .error failure => ⟨{ machine with state := fresh }, [], .error failure⟩

/-! ## Cycles -/

/-- Lets the timers run from now on, if they do not run yet. -/
def startTimers (machine : Machine) (now : Float) : Machine :=
  { machine with timersAt := some (machine.timersAt.getD now) }

/-- Fails with the error of a machine that has stopped. -/
def checkFault (machine : Machine) : Outcome Unit :=
  match machine.state.error? with
  | none => machine.done
  | some error => ⟨machine, [.stopped error], .error (.machine error)⟩

/-- The note of the instruction that the next cycle executes, if it executes one. -/
def preview (machine : Machine) : List Note :=
  (machine.state.pendingWord?.map (Note.instruction machine.state.pc)).toList

/-- One cycle. -/
def cycle (machine : Machine) (around : Surroundings) : Outcome Unit :=
  let stepped := { machine with state := machine.state.step }.startTimers around.now
  let checked := stepped.checkFault
  { checked with notes := machine.preview ++ checked.notes }

/-- As many cycles as are asked for, up to the first failure. -/
def cycles (machine : Machine) (around : Surroundings) : Nat → Outcome Unit
  | 0 => machine.done
  | count + 1 => (machine.cycle around).andThen fun next _ => next.cycles around count

/-- Several cycles at once, without notes of their instructions. -/
def run (machine : Machine) (around : Surroundings) (count : Int) : Outcome Unit :=
  ({ machine with state := machine.state.run count }.startTimers around.now).checkFault

/-- `run`, with what a progress bar was told. A count that no bar can show changes nothing. -/
def runWithProgress {ω : Type} (machine : Machine) (around : Surroundings) (count : Int) :
    Outcome (List (BarEvent ω)) :=
  match machine.state.runWithProgress count with
  | .error failure => ⟨machine, [], .error failure⟩
  | .ok (after, events) =>
    (({ machine with state := after }.startTimers around.now).checkFault).andThen
      fun next _ => ⟨next, [], .ok events⟩

/-! ## Timers -/

/-- Calls the handler of beeps. -/
def callHandler (machine : Machine) : Outcome Unit :=
  match machine.onBeep with
  | .absent => machine.done
  | .writes text => ⟨machine, [.handlerCalled text], .ok ()⟩
  | .fails text failure => ⟨machine, [.handlerCalled text], .error (.handler failure)⟩

/-- Clears a due beep and calls the handler. -/
def deliverBeep (machine : Machine) : Outcome Unit :=
  let (state, due) := machine.state.takeBeep
  let quiet := { machine with state }
  if due then
    let called := quiet.callHandler
    { called with notes := .beep :: called.notes }
  else quiet.done

/-- One tick of the timers, with its beep. -/
def tick (machine : Machine) : Outcome Unit :=
  { machine with state := machine.state.tick }.deliverBeep

/-- As many ticks as are asked for, up to the first failure. -/
def ticks (machine : Machine) : Nat → Outcome Unit
  | 0 => machine.done
  | count + 1 => machine.tick.andThen fun next _ => next.ticks count

/-- The most ticks that an update applies: no timer runs longer. -/
def tickLimit : Nat := 256

/-- Applies the ticks that are due by the clock, and tells how many were applied. -/
def updateTimers (machine : Machine) (around : Surroundings) : Outcome Nat :=
  match machine.timersAt with
  | none => ⟨machine, [], .ok 0⟩
  | some last =>
    match TimerClock.due last around.now with
    | .error failure => ⟨machine, [], .error failure⟩
    | .ok none => ⟨machine, [], .ok 0⟩
    | .ok (some (count, accounted)) =>
      let applied := min count tickLimit
      ({ machine with timersAt := some accounted }.ticks applied).andThen
        fun next _ => ⟨next, [], .ok applied⟩

/-! ## Keys and frames -/

/-- Replaces the held keys by sixteen states in one row. -/
def setKeypad (machine : Machine) (keys : Nested Bool) : Outcome Unit :=
  match machine.state.setKeypad keys with
  | .ok state => done { machine with state }
  | .error failure => ⟨machine, [], .error failure⟩

/-- The screen, if it was drawn on since it was last handed out. -/
def takeFrame (machine : Machine) : Outcome (Option Frame) :=
  let (state, shown) := machine.state.takeFrame
  ⟨{ machine with state }, [], .ok shown⟩

end Machine

end Chip8
