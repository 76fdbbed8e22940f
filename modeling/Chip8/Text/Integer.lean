import Chip8.Text.Blank
import Chip8.Text.DecimalDigit
/-!
Reading whole numbers from text.  Blanks may stand around the number, one sign
in front of it, and single underscores between its digits.  The digits of all
scripts count.  A hexadecimal number may carry the mark `0x`, with one more
underscore after it.
-/

namespace Chip8.Text

def decimalDigitLimit : Nat := 4300

/-- Whether an integer has few enough digits to be shown in a message. -/
def canShow (value : Int) : Bool :=
  decide (value.natAbs < Nat.pow 10 decimalDigitLimit)

/-- The value of a letter used as a digit, ten for `a` and `A`. -/
def letterDigit? (character : Char) : Option Nat :=
  if 'a' ≤ character ∧ character ≤ 'z' then some (character.toNat - 'a'.toNat + 10)
  else if 'A' ≤ character ∧ character ≤ 'Z' then some (character.toNat - 'A'.toNat + 10)
  else none

def digitIn? (base : Nat) (character : Char) : Option Nat :=
  ((decimalDigit? character).or (letterDigit? character)).filter (· < base)

/-- Digits after a first one, each with at most one underscore before it. -/
def readMoreDigits? (base : Nat) (value : Nat) : List Char → Option Nat
  | [] => some value
  | '_' :: character :: rest => do
      let digit ← digitIn? base character
      readMoreDigits? base (value * base + digit) rest
  | character :: rest => do
      let digit ← digitIn? base character
      readMoreDigits? base (value * base + digit) rest

/-- A natural number: digits, with single underscores between them. -/
def readDigits? (base : Nat) : List Char → Option Nat
  | [] => none
  | character :: rest => do
      let digit ← digitIn? base character
      readMoreDigits? base digit rest

def splitSign : List Char → Bool × List Char
  | '-' :: rest => (true, rest)
  | '+' :: rest => (false, rest)
  | characters => (false, characters)

/-- A hexadecimal number without its mark. -/
def dropHexMark : List Char → List Char
  | '0' :: mark :: rest =>
      if mark = 'x' ∨ mark = 'X' then
        match rest with
        | '_' :: digits => digits
        | digits => digits
      else
        '0' :: mark :: rest
  | characters => characters

/-- A natural number with the sign that stood before it. -/
def withSign (negative : Bool) (value : Nat) : Int :=
  if negative then -(value : Int) else value

/-- A decimal number; nothing if the text is not one or has too many digits. -/
def readDecimal? (text : String) : Option Int :=
  let (negative, characters) := splitSign (trimBlanks text.toList)
  if (characters.filter (· != '_')).length ≤ decimalDigitLimit then
    (readDigits? 10 characters).map (withSign negative)
  else
    none

/-- A hexadecimal number of any length, with or without its mark. -/
def readHexadecimal? (text : String) : Option Int :=
  let (negative, characters) := splitSign (trimBlanks text.toList)
  (readDigits? 16 (dropHexMark characters)).map (withSign negative)

/-- A hexadecimal number if the text starts with `0x`, and a decimal number otherwise. -/
def readInteger? (text : String) : Option Int :=
  if ['0', 'x'].isPrefixOf text.toList then readHexadecimal? text else readDecimal? text

end Chip8.Text
