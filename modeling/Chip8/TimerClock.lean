import Chip8.Failure
import Chip8.ExactFloat

/-!
# Timer clock

Timers tick sixty times a second of a clock that a host reads. The ticks due are the whole periods
since the last update, which then moves on by just those periods, so that the rest of a period is
not lost. All of this is arithmetic on doubles.
-/

namespace Chip8.TimerClock

/-- Seconds between two ticks. -/
def period : Float := 1.0 / 60

/-- The ticks that are due at a reading, and the time up to which they account. Nothing is due
before a whole period has passed. -/
def due (last now : Float) : Except Failure (Option (Nat × Float)) :=
  match ExactFloat.ofFloat ((now - last) / period) with
  | .notANumber => .error .noNumber
  | .infinite _ => .error .overflow
  | .finite negative significand exponent =>
    let whole := ExactFloat.wholePart significand exponent
    if negative || whole == 0 then .ok none
    else .ok (some (whole, last + Float.ofNat whole * period))

end Chip8.TimerClock
