import Chip8.Window

/-!
# Command line

Settings are given as `name=value`, in any order; the program must be named. The script of frames
has one frame a line: the reading of the clock or `-`, then the events, `+key` and `-key` for keys
that go down and up and `quit` for a request to close.
-/

namespace Chip8.Window

namespace Settings

/-- How the settings are given. -/
def usage : String :=
  "usage: rom=FILE [scale=N] [color_scheme=NAME] [log_level=NAME] [seed=N]"

/-- Takes one setting over. -/
def accept (settings : Settings) (name value : String) : Option Settings :=
  match name with
  | "rom" => some { settings with program := value }
  | "scale" => value.toInt?.map fun scale => { settings with scale }
  | "color_scheme" => some { settings with scheme := value }
  | "log_level" => some { settings with logLevel := value }
  | "seed" => value.toInt?.map fun seed => { settings with seed }
  | _ => none

/-- The settings that arguments give, if each is understood and the program is named. -/
def ofArguments (arguments : List String) : Option Settings := do
  let settings ← arguments.foldlM
    (fun settings argument =>
      match argument.splitOn "=" with
      | name :: value :: rest => settings.accept name ("=".intercalate (value :: rest))
      | _ => none)
    { program := "" }
  if settings.program.isEmpty then none else some settings

end Settings

namespace Event

/-- The event that a word of a script stands for. -/
def ofWord (word : String) : Event :=
  match word.toList with
  | '+' :: key => .keyDown (String.ofList key)
  | '-' :: key => .keyUp (String.ofList key)
  | _ => if word == "quit" then .close else .other

end Event

namespace Moment

/-- The digits of a decimal number without sign, as a whole number and the count of places. -/
def decimalParts (text : String) : Option (Nat × Nat) :=
  match text.splitOn "." with
  | [whole] => whole.toNat?.map (·, 0)
  | [whole, places] => (whole ++ places).toNat?.map (·, places.length)
  | _ => none

/-- A reading of the clock. -/
def reading (text : String) : Option Float :=
  (decimalParts text).map fun (digits, places) => Float.ofScientific digits true places

/-- The frame that a line of a script stands for. -/
def ofLine (line : String) : Moment :=
  match (line.splitOn " ").filter (· ≠ "") with
  | [] => ⟨none, []⟩
  | clock :: events => ⟨reading clock, events.map Event.ofWord⟩

end Moment

namespace Call

/-- A call on one line. Of a picture its size is told. -/
def line : Call → String
  | .start => "init"
  | .setMode width height => "set_mode " ++ Text.decimal width ++ "x" ++ Text.decimal height
  | .caption text => "caption " ++ text
  | .tick rate => "tick " ++ Text.digits rate
  | .blit surface =>
    "blit " ++ Text.digits surface.height ++ "x" ++ Text.digits surface.width
  | .flip => "flip"
  | .stop => "quit"

end Call

end Chip8.Window
