import Chip8.Files
import Chip8.Machine

/-!
# Sessions

A session is a machine together with a clock and a directory, and a list of things that happen:
operations of the machine, readings of the clock, and files that come and go. Each yields an answer
or a failure, and notes that the machine's logger turns into text.
-/

namespace Chip8

inductive Happening where
  | load (program : Program)
  | reset
  | cycles (count : Nat)
  | run (count : Int)
  | runWithProgress (count : Int)
  | setKeypad (keys : Nested Bool)
  | tick
  | updateTimers
  | takeFrame
  /-- The clock comes to a new reading. -/
  | clockReads (now : Float)
  /-- A file or directory appears under a name, in place of what was there. -/
  | fileAppears (name : String) (entry : Entry)
  | fileVanishes (name : String)

/-- What a happening answers. -/
inductive Response where
  | done
  | progress (events : List (BarEvent Unit))
  | count (applied : Nat)
  | frame (shown : Option Frame)

structure Session where
  machine : Machine
  /-- The reading of the clock, in seconds. -/
  now : Float
  files : Files

/-- A session after a happening, what there is to tell, and the answer. -/
structure Reply where
  session : Session
  notes : List Note
  result : Except Failure Response

namespace Reply

/-- What was written. -/
def written (reply : Reply) : String :=
  reply.session.machine.logger.printAll reply.session.now reply.notes

end Reply

namespace Session

/-- Takes the outcome of an operation over into the session. -/
def absorb {α : Type} (session : Session) (outcome : Outcome α) (answer : α → Response) : Reply :=
  ⟨{ session with machine := outcome.machine }, outcome.notes, outcome.result.map answer⟩

/-- What the machine finds around it. -/
def around (session : Session) : Surroundings :=
  ⟨session.now, session.files.read⟩

/-- A session that changed around the machine, which there is nothing to tell about. -/
def unnoticed (session : Session) : Reply :=
  ⟨session, [], .ok .done⟩

def perform (session : Session) : Happening → Reply
  | .load program => session.absorb (session.machine.load session.around program) fun _ => .done
  | .reset => session.absorb (session.machine.reset session.around) fun _ => .done
  | .cycles count =>
    session.absorb (session.machine.cycles session.around count) fun _ => .done
  | .run count =>
    session.absorb (session.machine.run session.around count) fun _ => .progress []
  | .runWithProgress count =>
    session.absorb (session.machine.runWithProgress session.around count) .progress
  | .setKeypad keys => session.absorb (session.machine.setKeypad keys) fun _ => .done
  | .tick => session.absorb (session.machine.tick) fun _ => .done
  | .updateTimers => session.absorb (session.machine.updateTimers session.around) .count
  | .takeFrame => session.absorb session.machine.takeFrame .frame
  | .clockReads now => unnoticed { session with now }
  | .fileAppears name entry => unnoticed { session with files := session.files.write name entry }
  | .fileVanishes name => unnoticed { session with files := session.files.remove name }

/-- The session after a history. -/
def after (session : Session) (history : List Happening) : Session :=
  history.foldl (fun session happening => (session.perform happening).session) session

/-- All replies to a history, in order. -/
def replies (session : Session) : List Happening → List Reply
  | [] => []
  | happening :: rest =>
    let reply := session.perform happening
    reply :: reply.session.replies rest

end Session

end Chip8
