/-!
# Written numbers

Hexadecimal with a least width, decimal with grouped thousands, and alignment in a column. A minus
sign counts towards a width, so that `-1` in three places is `-01`.
-/

namespace Chip8.Text

/-- Fills `text` up to `width` characters by putting `fill` in front of it. -/
def alignRight (width : Nat) (fill : Char) (text : String) : String :=
  String.ofList (List.replicate (width - text.length) fill ++ text.toList)

/-- The sign of a number as it is written: nothing, or a minus. -/
def sign (value : Int) : String :=
  if value < 0 then "-" else ""

/-- Upper-case hexadecimal digits without leading zeros; zero has one digit. -/
def hexDigits (value : Nat) : String :=
  String.ofList ((Nat.toDigits 16 value).map Char.toUpper)

/-- Hexadecimal, filled with zeros behind the sign to at least `width` characters in all. -/
def hex (width : Nat) (value : Int) : String :=
  sign value ++ alignRight (width - (sign value).length) '0' (hexDigits value.natAbs)

/-- Decimal digits without leading zeros; zero has one digit. -/
def digits (value : Nat) : String :=
  String.ofList (Nat.toDigits 10 value)

/-- Decimal with a minus for negative numbers. -/
def decimal (value : Int) : String :=
  sign value ++ digits value.natAbs

/-- Puts a comma in front of every third digit, counted from the last one. `reversed` holds the
digits with the last one first. -/
def groupReversed : List Char → List Char
  | a :: b :: c :: d :: rest => a :: b :: c :: ',' :: groupReversed (d :: rest)
  | short => short

/-- Decimal with commas between groups of three digits. -/
def grouped (value : Int) : String :=
  sign value ++
    String.ofList (groupReversed (Nat.toDigits 10 value.natAbs).reverse).reverse

end Chip8.Text
