/-!
# Exact values of doubles

A double is decoded from its bits into the number it stands for, so that comparing it with a grid
and cutting it to an integer are exact integer arithmetic.
-/

namespace Chip8

/-- What a double stands for: `± significand * 2 ^ exponent`, an infinity, or no number. -/
inductive ExactFloat where
  | finite (negative : Bool) (significand : Nat) (exponent : Int)
  | infinite (negative : Bool)
  | notANumber
deriving DecidableEq, Repr

namespace ExactFloat

/-- Reads sign, exponent and significand from the 64 bits. -/
def ofBits (bits : Nat) : ExactFloat :=
  let negative : Bool := bits >>> 63 % 2 == 1
  let biased : Nat := bits >>> 52 % 0x800
  let fraction : Nat := bits % 0x10000000000000
  if biased = 2047 then
    if fraction = 0 then .infinite negative else .notANumber
  else if biased = 0 then .finite negative fraction (-1074)
  else .finite negative (0x10000000000000 + fraction) ((biased : Int) - 1075)

def ofFloat (value : Float) : ExactFloat :=
  ofBits value.toBits.toNat

/-- `significand * 2 ^ exponent` without the places behind the point. -/
def wholePart (significand : Nat) : Int → Nat
  | .ofNat up => significand <<< up
  | .negSucc down => significand >>> (down + 1)

end ExactFloat

end Chip8
