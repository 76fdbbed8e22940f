import Chip8.Numeric.Binary64
/-!
Division of floating-point numbers by a positive integer, towards the floor.
What the division towards zero leaves over is exact; the quotient is worked out
from it, with a rounding after each operation, and then made whole.
-/

namespace Chip8.Numeric.Binary64

/-- Whether a number is less than zero; a `nan` is not. -/
def isNegative : Binary64 → Bool
  | .nan => false
  | .infinity negative => negative
  | .finite negative significand _ => negative && significand != 0

/-- The quotient, computed exactly and rounded. -/
def divide (divisor : Nat) : Binary64 → Binary64
  | .nan => .nan
  | .infinity negative => .infinity negative
  | .finite negative significand exponent =>
      let (top, bottom) := scaleFraction 2 significand 1 exponent
      round negative top (divisor * bottom)

/-- What a division towards zero leaves over; it has the sign of the number. -/
def leftover (divisor : Nat) : Binary64 → Binary64
  | .finite negative significand exponent =>
      let (top, bottom) := scaleFraction 2 significand 1 exponent
      round negative (top % (divisor * bottom)) bottom
  | _ => .nan

/-- What a division towards the floor leaves over; it is never negative. -/
def remainder (divisor : Nat) (number : Binary64) : Binary64 :=
  match number.leftover divisor with
  | .finite _ 0 _ => zero
  | rest => if rest.isNegative then rest.add (ofDyadic divisor 0) else rest

/-- The whole number below a number, or the one above if that is nearer. -/
def makeWhole : Binary64 → Binary64
  | .finite negative significand exponent =>
      let (top, bottom) := scaleFraction 2 significand 1 exponent
      let value := signed negative top
      let below := value / (bottom : Int)
      ofDyadic (if (bottom : Int) < 2 * (value % bottom) then below + 1 else below) 0
  | number => number

/-- The quotient towards the floor.  A quotient of zero has the sign of the number. -/
def floorQuotient (divisor : Nat) (number : Binary64) : Binary64 :=
  let rest := number.leftover divisor
  let whole := (number.sub rest).divide divisor
  match if rest.isNegative then whole.sub (ofDyadic 1 0) else whole, number with
  | .finite _ 0 exponent, .finite negative _ _ => .finite negative 0 exponent
  | quotient, _ => quotient.makeWhole

end Chip8.Numeric.Binary64
