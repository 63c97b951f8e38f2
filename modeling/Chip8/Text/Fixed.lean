import Chip8.ExactFloat
import Chip8.Text.Numeral

/-!
# Numbers with two places

A double is rounded to hundredths from its exact value; a tie goes to the even hundredth.
-/

namespace Chip8

/-- `numerator / denominator` to the nearest integer; a tie goes to the even one. -/
def roundHalfEven (numerator denominator : Nat) : Nat :=
  let quotient := numerator / denominator
  let twice := 2 * (numerator % denominator)
  if twice < denominator then quotient
  else if denominator < twice then quotient + 1
  else quotient + quotient % 2

namespace Text

/-- A number of hundredths with a point between units and the two places. -/
def hundredths (count : Nat) : String :=
  digits (count / 100) ++ "." ++ alignRight 2 '0' (digits (count % 100))

/-- The number of hundredths nearest to `significand * 2 ^ exponent`. -/
def nearestHundredth (significand : Nat) : Int → Nat
  | .ofNat up => (significand * 100) <<< up
  | .negSucc down => roundHalfEven (significand * 100) (1 <<< (down + 1))

/-- A value with two places. The sign of the value is kept when it rounds to nothing. -/
def twoPlacesExact : ExactFloat → String
  | .finite negative significand exponent =>
    (if negative then "-" else "") ++ hundredths (nearestHundredth significand exponent)
  | .infinite negative => if negative then "-inf" else "inf"
  | .notANumber => "nan"

/-- A double with two places, a half going to the even neighbour. -/
def twoPlaces (value : Float) : String :=
  twoPlacesExact (.ofFloat value)

end Text

end Chip8
