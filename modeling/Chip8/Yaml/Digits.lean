import Chip8.Text.Integer
import Chip8.Yaml.Cursor
/-!
Digits of a document: their values, alone and in a row.
-/

namespace Chip8.Yaml

def hexDigit? (character : Char) : Option Nat :=
  if character.isDigit then some (character.toNat - '0'.toNat)
  else if 'a' ≤ character ∧ character ≤ 'f' then some (character.toNat - 'a'.toNat + 10)
  else if 'A' ≤ character ∧ character ≤ 'F' then some (character.toNat - 'A'.toNat + 10)
  else none

/-- The value of digits in a base; nothing if a character is none. -/
def digitsValue? (base : Nat) (digits : List Char) : Option Nat :=
  (digits.mapM hexDigit?).map (·.foldl (fun value digit => base * value + digit) 0)

def decimalValue (digits : List Char) : Nat :=
  digits.foldl (fun value digit => 10 * value + (digit.toNat - '0'.toNat)) 0

/-- The value of decimal digits as a whole number, which must not have too many. -/
def wholeValue (digits : List Char) : Except Error Nat :=
  if digits.length ≤ Text.decimalDigitLimit then .ok (decimalValue digits) else .error .noValue

end Chip8.Yaml
