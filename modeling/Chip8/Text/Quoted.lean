import Chip8.Text.Printable

/-!
# Quoted text

A text between quotes on one line, with everything escaped that would not show. Single quotes are
used unless the text holds a single quote and no double one.
-/

namespace Chip8.Text.Quoted

/-- The code of `'`. -/
def single : Char := Char.ofNat 0x27

/-- The code of a double quote. -/
def double : Char := Char.ofNat 0x22

/-- The code of the escape character. -/
def backslash : Char := Char.ofNat 0x5C

/-- The quote that stands at both ends of a text. -/
def quoteFor (text : List Char) : Char :=
  if single ∈ text ∧ double ∉ text then double else single

/-- The last `count` hexadecimal digits of a code point, in lower case. -/
def lowerHex (count : Nat) (code : Nat) : List Char :=
  let shown := Nat.toDigits 16 code
  List.replicate (count - shown.length) '0' ++ shown

/-- How one character is written between quotes of the kind `quote`. -/
def escape (quote : Char) (c : Char) : List Char :=
  if c = quote ∨ c = backslash then [backslash, c]
  else if c = '\n' then [backslash, 'n']
  else if c = '\r' then [backslash, 'r']
  else if c = '\t' then [backslash, 't']
  else if isPrintable c then [c]
  else if c.toNat < 0x100 then backslash :: 'x' :: lowerHex 2 c.toNat
  else if c.toNat < 0x10000 then backslash :: 'u' :: lowerHex 4 c.toNat
  else backslash :: 'U' :: lowerHex 8 c.toNat

/-- The whole text between its quotes. -/
def chars (text : List Char) : List Char :=
  let quote := quoteFor text
  quote :: text.flatMap (escape quote) ++ [quote]

end Quoted

/-- A text between quotes, on one line and with nothing invisible left in it. -/
def quoted (text : String) : String :=
  String.ofList (Quoted.chars text.toList)

end Chip8.Text
