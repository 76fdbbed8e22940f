/-!
Binary floating-point numbers of 64 bits, as exact values: a sign, a natural
significand and a power of two.  `round` is the one place where precision is
lost; it gives the nearest number, and the one with an even significand when
two are equally near.  Every operation computes exactly and then rounds.
-/

namespace Chip8.Numeric

/-- A floating-point number; `finite` stands for `± significand * 2 ^ exponent`. -/
inductive Binary64 where
  | nan
  | infinity (negative : Bool)
  | finite (negative : Bool) (significand : Nat) (exponent : Int)
  deriving DecidableEq, Repr

/-- The quotient to the nearest natural number, a half to the even one. -/
def nearestQuotient (numerator denominator : Nat) : Nat :=
  let quotient := numerator / denominator
  let twice := 2 * (numerator % denominator)
  if denominator < twice ∨ (denominator = twice ∧ quotient % 2 = 1) then
    quotient + 1
  else
    quotient

/-- A fraction scaled by a power of a base, as numerator and denominator. -/
def scaleFraction (base : Nat) (numerator denominator : Nat) (power : Int) : Nat × Nat :=
  (numerator * Nat.pow base power.toNat, denominator * Nat.pow base (-power).toNat)

namespace Binary64

/-- The least significand of 53 bits, `2 ^ 52`. -/
abbrev fullSignificand : Nat := 0x10000000000000

def leastExponent : Int := -1074

def greatestExponent : Int := 971

def zero : Binary64 := .finite false 0 leastExponent

/--
The exponent at which a positive fraction has a significand of 53 bits, or
the least exponent when the fraction is too small for that.
-/
def exponentOf (numerator denominator : Nat) : Int :=
  let guess := (numerator.log2 : Int) - denominator.log2 - 52
  let (top, bottom) := scaleFraction 2 numerator denominator (-guess)
  let exact := if top / bottom < fullSignificand then guess - 1 else guess
  max exact leastExponent

def round (negative : Bool) (numerator denominator : Nat) : Binary64 :=
  if numerator = 0 then
    .finite negative 0 leastExponent
  else
    let exponent := exponentOf numerator denominator
    let (top, bottom) := scaleFraction 2 numerator denominator (-exponent)
    let significand := nearestQuotient top bottom
    let (significand, exponent) :=
      if significand = 2 * fullSignificand then (fullSignificand, exponent + 1)
      else (significand, exponent)
    if greatestExponent < exponent then .infinity negative
    else .finite negative significand exponent

/-- The number nearest to `numerator * 2 ^ power`. -/
def ofDyadic (numerator : Int) (power : Int) : Binary64 :=
  let (top, bottom) := scaleFraction 2 numerator.natAbs 1 power
  round (decide (numerator < 0)) top bottom

/--
The number nearest to a quotient of integers; nothing if the quotient is too
large.  A quotient of zero has the sign of its denominator.
-/
def ofQuotient? (numerator denominator : Int) : Option Binary64 :=
  let negative := decide (numerator < 0) != decide (denominator < 0)
  match round negative numerator.natAbs denominator.natAbs with
  | .infinity _ => none
  | number => some number

/--
The number nearest to `± mantissa * 10 ^ exponent`.  Magnitudes far beyond
the largest and far below the smallest number are settled by their size.
-/
def ofDecimal (negative : Bool) (mantissa : Nat) (exponent : Int) : Binary64 :=
  let magnitude := exponent + (Nat.toDigits 10 mantissa).length
  if mantissa = 0 ∨ magnitude < -400 then .finite negative 0 leastExponent
  else if 400 < magnitude then .infinity negative
  else
    let (top, bottom) := scaleFraction 10 mantissa 1 exponent
    round negative top bottom

def neg : Binary64 → Binary64
  | .nan => .nan
  | .infinity negative => .infinity (!negative)
  | .finite negative significand exponent => .finite (!negative) significand exponent

def signed (negative : Bool) (significand : Nat) : Int :=
  if negative then -(significand : Int) else significand

/-- The sum, computed exactly and rounded; opposite numbers give positive zero. -/
def add : Binary64 → Binary64 → Binary64
  | .nan, _ => .nan
  | _, .nan => .nan
  | .infinity left, .infinity right => if left = right then .infinity left else .nan
  | .infinity left, .finite .. => .infinity left
  | .finite .., .infinity right => .infinity right
  | .finite leftNegative left leftExponent, .finite rightNegative right rightExponent =>
      let exponent := min leftExponent rightExponent
      let sum :=
        signed leftNegative left * Nat.pow 2 (leftExponent - exponent).toNat +
          signed rightNegative right * Nat.pow 2 (rightExponent - exponent).toNat
      if sum = 0 then .finite (leftNegative && rightNegative) 0 leastExponent
      else ofDyadic sum exponent

/-- The difference, computed exactly and rounded. -/
def sub (left right : Binary64) : Binary64 :=
  add left right.neg

/-- The product, computed exactly and rounded. -/
def mul : Binary64 → Binary64 → Binary64
  | .nan, _ => .nan
  | _, .nan => .nan
  | .infinity left, .infinity right => .infinity (left != right)
  | .infinity negative, .finite right significand _
  | .finite right significand _, .infinity negative =>
      if significand = 0 then .nan else .infinity (negative != right)
  | .finite leftNegative left leftExponent, .finite rightNegative right rightExponent =>
      let (top, bottom) := scaleFraction 2 (left * right) 1 (leftExponent + rightExponent)
      round (leftNegative != rightNegative) top bottom

/-- The product with a natural number, computed exactly and rounded. -/
def scale (factor : Nat) : Binary64 → Binary64
  | .nan => .nan
  | .infinity negative => if factor = 0 then .nan else .infinity negative
  | .finite negative significand exponent =>
      let (top, bottom) := scaleFraction 2 (factor * significand) 1 exponent
      round negative top bottom

def truncate? : Binary64 → Option Int
  | .finite negative significand exponent =>
      let (top, bottom) := scaleFraction 2 significand 1 exponent
      some (signed negative (top / bottom))
  | _ => none

/-- Whether a number is at most zero; a `nan` is not. -/
def isNonpositive : Binary64 → Bool
  | .nan => false
  | .infinity negative => negative
  | .finite negative significand _ => negative || significand = 0

/-- The bit that a sign takes in the interchange encoding, the highest of 64. -/
def signBit (negative : Bool) : Nat :=
  if negative then 2048 * fullSignificand else 0

/-- The interchange encoding: sign, biased exponent and fraction. -/
def toBits : Binary64 → Nat
  | .nan => 2047 * fullSignificand + fullSignificand / 2
  | .infinity negative => signBit negative + 2047 * fullSignificand
  | .finite negative significand exponent =>
      let field := if significand < fullSignificand then 0 else (exponent + 1075).toNat
      signBit negative + field * fullSignificand + significand % fullSignificand

end Binary64

end Chip8.Numeric
