import Chip8.Machine
import Chip8.Picture

/-!
# Window

A window shows a machine and takes keys from a keyboard. Sixty times a second it collects the events
since the last frame, runs ten cycles with the keys then held, lets the timers catch up, and shows
the screen if it was drawn on. It ends after a frame in which it was asked to close or in which the
machine stopped.

The window works through a script of frames; when the script is used up it is asked to close. What
it does to the screen of the host is recorded as a list of calls.
-/

namespace Chip8.Window

/-- Something that happened since the last frame. Keys have the names that stand on the keyboard. -/
inductive Event where
  | close
  | keyDown (key : String)
  | keyUp (key : String)
  /-- Anything a window does not care for. -/
  | other
deriving DecidableEq, Repr

/-- One frame of a script: a new reading of the clock, if it moved on, and the events. -/
structure Moment where
  now : Option Float
  events : List Event

/-- What a window asks of the host. -/
inductive Call where
  | start
  | setMode (width height : Int)
  | caption (text : String)
  /-- Wait for the next frame at so many frames a second. -/
  | tick (rate : Nat)
  /-- Show a picture, column by column, at the upper left corner. -/
  | blit (surface : Picture)
  | flip
  | stop

/-- How a window is to be set up. -/
structure Settings where
  program : String
  /-- Host pixels along each side of a pixel. -/
  scale : Int := 10
  scheme : String := "classic"
  logLevel : String := "INFO"
  seed : Int := 0

/-- How settings are given by a caller. -/
def Settings.signature : Signature where
  parameters := ["rom_filename", "scale", "color_scheme", "log_level", "seed"]
  needed := ["rom_filename"]

/-- What a window leaves behind. The result is an exit code. -/
structure Report where
  result : Except Failure Nat
  calls : List Call
  written : String
  machine : Machine
  /-- Frames of the script that were not reached. -/
  framesLeft : Nat

/-! ## Keyboard -/

/-- The keyboard keys that stand for keypad keys. Four rows of the keyboard, from `1` `2` `3` `4`
down to `Z` `X` `C` `V`, form the keypad. -/
def keyMap : List (String × Fin 16) := [
  ("1", 0x1), ("2", 0x2), ("3", 0x3), ("4", 0xC),
  ("q", 0x4), ("w", 0x5), ("e", 0x6), ("r", 0xD),
  ("a", 0x7), ("s", 0x8), ("d", 0x9), ("f", 0xE),
  ("z", 0xA), ("x", 0x0), ("c", 0xB), ("v", 0xF)]

/-- The keypad key that a keyboard key stands for. -/
def keypadKey? (key : String) : Option (Fin 16) :=
  keyMap.lookup key

/-- The key that closes the window. -/
def closeKey : String := "ESCAPE"

/-- Whether an event asks the window to close. -/
def asksToClose : Event → Bool
  | .close => true
  | .keyDown key => key == closeKey
  | _ => false

/-- The held keys after an event. -/
def press (keypad : Keypad) : Event → Keypad
  | .keyDown key =>
    if key == closeKey then keypad
    else match keypadKey? key with
      | some number => keypad.set number true
      | none => keypad
  | .keyUp key =>
    match keypadKey? key with
    | some number => keypad.set number false
    | none => keypad
  | _ => keypad

/-! ## Frames -/

/-- How a frame ends. -/
inductive Verdict where
  | goOn
  /-- The window closes with an exit code. -/
  | leave (code : Nat)
  /-- The window breaks off. -/
  | breakOff (failure : Failure)

/-- What a frame leaves behind. -/
structure FrameOutcome where
  machine : Machine
  keypad : Keypad
  calls : List Call
  notes : List Note
  verdict : Verdict

/-- The cycles of a frame: one by one if all details are logged, else at once. -/
def runCycles (machine : Machine) (around : Surroundings) : Outcome Unit :=
  if machine.logger.isEnabledFor Level.debug.name then
    machine.cycles around Layout.cyclesPerFrame
  else machine.run around Layout.cyclesPerFrame

/-- The calls that show the screen, if it was drawn on. -/
def present (machine : Machine) (scale : Int) (palette : Palette) : Outcome (List Call) :=
  machine.takeFrame.andThen fun machine shown =>
    match shown with
    | none => ⟨machine, [], .ok []⟩
    | some frame =>
      ⟨machine, [], (Picture.columnsOf (.ofFrame frame) scale palette).map fun surface =>
        [.blit surface, .flip]⟩

/-- The end of a frame whose machine runs: the timers catch up, and the screen is shown if it was
drawn on. -/
def refresh (machine : Machine) (around : Surroundings) (scale : Int) (palette : Palette) :
    Outcome (List Call) :=
  (machine.updateTimers around).andThen fun machine _ => present machine scale palette

/-- The rest of a frame after its cycles. -/
def settle (settings : Settings) (palette : Palette) (around : Surroundings) (keypad : Keypad)
    (events : List Event) (ran : Outcome Unit) : FrameOutcome :=
  let tick : Call := .tick Layout.timerFrequency
  match ran.result with
  | .error (.machine _) => ⟨ran.machine, keypad, [tick], ran.notes, .leave 1⟩
  | .error failure => ⟨ran.machine, keypad, [tick], ran.notes, .breakOff failure⟩
  | .ok () =>
    let shown := refresh ran.machine around settings.scale palette
    let notes := ran.notes ++ shown.notes
    match shown.result with
    | .error failure => ⟨shown.machine, keypad, [tick], notes, .breakOff failure⟩
    | .ok calls =>
      let verdict := if events.any asksToClose then .leave 0 else .goOn
      ⟨shown.machine, keypad, tick :: calls, notes, verdict⟩

/-- One frame: its cycles run on the keys that its events leave held. -/
def frame (settings : Settings) (palette : Palette) (around : Surroundings) (machine : Machine)
    (keypad : Keypad) (events : List Event) : FrameOutcome :=
  let keypad := events.foldl press keypad
  settle settings palette around keypad events
    (runCycles { machine with state := machine.state.setKeys keypad } around)

namespace Moment

/-- The frame of a window that is asked to close. -/
def last : Moment := ⟨none, [.close]⟩

/-- What the frame finds around it: the clock may have moved on. -/
def around (moment : Moment) (before : Surroundings) : Surroundings :=
  { before with now := moment.now.getD before.now }

/-- Works through the frame. -/
def play (moment : Moment) (settings : Settings) (palette : Palette) (before : Surroundings)
    (machine : Machine) (keypad : Keypad) : FrameOutcome :=
  frame settings palette (moment.around before) machine keypad moment.events

end Moment

namespace Report

/-- The report after one more frame. -/
def extended (report : Report) (done : FrameOutcome) (now : Float) (framesLeft : Nat) : Report :=
  { report with
    machine := done.machine
    calls := report.calls ++ done.calls
    written := report.written ++ done.machine.logger.printAll now done.notes
    framesLeft }

/-- Goes on with the report, or ends it as a frame ended. -/
def continued (report : Report) (done : FrameOutcome) (onward : Report → Report) : Report :=
  match done.verdict with
  | .goOn => onward report
  | .leave code => { report with result := .ok code, calls := report.calls ++ [.stop] }
  | .breakOff failure => { report with result := .error failure }

end Report

/-- Works through a script. `report` holds what was done before. When the script is used up, the
window is asked to close. -/
def loop (settings : Settings) (palette : Palette) (around : Surroundings) (keypad : Keypad)
    (report : Report) : List Moment → Report
  | [] =>
    let done := Moment.last.play settings palette around report.machine keypad
    (report.extended done (Moment.last.around around).now 0).continued done id
  | moment :: rest =>
    let done := moment.play settings palette around report.machine keypad
    (report.extended done (moment.around around).now rest.length).continued done fun extended =>
      loop settings palette (moment.around around) done.keypad extended rest

/-! ## Runs -/

/-- The logger of a window that opens at a time. -/
def logger (settings : Settings) (now : Float) : Logger where
  name := "Chip8"
  threshold := settings.logLevel
  colours := true
  timestamps := true
  terminal := false
  start := now

/-- The calls that open a window. -/
def opening (settings : Settings) : List Call := [
  .start,
  .setMode (Layout.screenWidth * settings.scale) (Layout.screenHeight * settings.scale),
  .caption "Chip8 - ESC to exit"]

/-- Loads the program, opens the window and works through the script. Without a program there is no
window; a machine error while loading is logged, and the exit code is one. -/
def run (settings : Settings) (around : Surroundings) (script : List Moment) :
    Except Failure Report :=
  match Random.ofSeed? settings.seed with
  | none => .error .overflow
  | some key =>
    let machine := Machine.create key (logger settings around.now) .absent
    let loaded := machine.load around (.file settings.program)
    let written := machine.logger.printAll around.now loaded.notes
    let closed (result : Except Failure Nat) (written : String) : Report :=
      { result, calls := [], written, machine := loaded.machine, framesLeft := script.length }
    .ok <| match loaded.result with
    | .error (.machine error) =>
      closed (.ok 1) (written ++ machine.logger.log around.now Level.error.name error.message)
    | .error failure => closed (.error failure) written
    | .ok () =>
      match Palette.ofName settings.scheme with
      | .error failure => closed (.error failure) written
      | .ok palette =>
        loop settings palette around Keypad.released
          { closed (.ok 0) written with calls := opening settings } script

end Chip8.Window
