import Chip8.Inputs
import Chip8.Progress

/-!
# Requests to a machine state

The operations a host can ask for, as values, each with what it answers. A history of a machine is a
list of requests; a refused request leaves the state as it was.
-/

namespace Chip8

inductive Request where
  /-- Execute a word, given as a number. -/
  | execute (word : Int)
  | step
  | run (count : Int)
  | runWithProgress (count : Int)
  | tick
  | takeBeep
  | setKeypad (keys : Nested Bool)
  | takeFrame
  | fetch
  | loadProgram (program : List UInt8)
  | readByte (address : Int)
  | writeByte (address value : Int)
  | writeBytes (address : Int) (data : List UInt8)
  | checkFault
  /-- Store a return address, given as a number. -/
  | push (address : Int)
  | pop
  /-- Whether the call stack is empty, and whether it is full. -/
  | stackEnds

inductive Answer where
  | done
  | truth (value : Bool)
  | truths (first second : Bool)
  | byte (value : UInt8)
  | word (value : UInt16)
  | frame (shown : Option Frame)
  | progress (events : List (BarEvent Unit))

namespace State

/-- A change that can be refused, as an answer. -/
def orRefuse (state : State) : Except Failure State → State × Except Failure Answer
  | .ok changed => (changed, .ok .done)
  | .error failure => (state, .error failure)

/-- The state after a request, and what the request answers. -/
def serve (state : State) : Request → State × Except Failure Answer
  | .execute word => state.orRefuse (state.executeInt word)
  | .step => (state.step, .ok .done)
  | .run count => (state.run count, .ok (.progress []))
  | .runWithProgress count =>
    match state.runWithProgress count with
    | .ok (after, events) => (after, .ok (.progress events))
    | .error failure => (state, .error failure)
  | .tick => (state.tick, .ok .done)
  | .takeBeep => let (after, due) := state.takeBeep; (after, .ok (.truth due))
  | .setKeypad keys => state.orRefuse (state.setKeypad keys)
  | .takeFrame => let (after, shown) := state.takeFrame; (after, .ok (.frame shown))
  | .fetch => (state, .ok (.word state.fetch))
  | .loadProgram program => state.orRefuse (state.loadProgram program)
  | .readByte address => (state, (state.readByte address).map .byte)
  | .writeByte address value => state.orRefuse (state.writeByte address value)
  | .writeBytes address data => state.orRefuse (state.writeBytes address data)
  | .checkFault => (state, state.checkFault.map fun _ => .done)
  | .push address => state.orRefuse (state.pushInt address)
  | .pop => let (stack, address) := state.stack.pop; ({ state with stack }, .ok (.word address))
  | .stackEnds => (state, .ok (.truths state.stack.isEmpty state.stack.isFull))

/-- The state after a history. -/
def after (state : State) (history : List Request) : State :=
  history.foldl (fun state request => (state.serve request).1) state

/-- The answers to the requests of a history. -/
def answers (state : State) : List Request → List (Except Failure Answer)
  | [] => []
  | request :: rest =>
    let (next, answer) := state.serve request
    answer :: next.answers rest

theorem orRefuse_of_refused {state : State} {change : Except Failure State} {failure : Failure}
    (refused : (state.orRefuse change).2 = .error failure) : (state.orRefuse change).1 = state := by
  cases change with
  | ok changed => simp [orRefuse] at refused
  | error => rfl

/-- A request that is refused changes nothing. -/
theorem serve_of_refused {state : State} {request : Request} {failure : Failure}
    (refused : (state.serve request).2 = .error failure) : (state.serve request).1 = state := by
  cases request with
  | execute | setKeypad | loadProgram | writeByte | writeBytes | push =>
    exact orRefuse_of_refused refused
  | readByte | checkFault | fetch | stackEnds => rfl
  | runWithProgress count =>
    simp only [serve] at refused ⊢
    split at refused
    · contradiction
    · rfl
  | step | run | tick | takeBeep | takeFrame | pop => contradiction

end State

end Chip8
