import Chip8.Numeric.Binary64
/-!
Decimal text of floating-point numbers.  The digits are the fewest that read
back as the same number, and of those the nearest to it.  `NumberText` holds
the choices of notation; `NumberText.plain` is the notation of the messages.
-/

namespace Chip8.Numeric

/-- A positive decimal number `0.d₁d₂… * 10 ^ point`. -/
structure Decimal where
  digits : List Char
  point : Int
  deriving DecidableEq, Repr

namespace Decimal

/-- The decimal number `mantissa * 10 ^ exponent`, without zeros at its end. -/
def ofScaled (mantissa : Nat) (exponent : Int) : Decimal :=
  let digits := Nat.toDigits 10 mantissa
  ⟨(digits.reverse.dropWhile (· = '0')).reverse, exponent + digits.length⟩

/-- Whether a fraction is below a power of ten. -/
def belowPower (numerator denominator : Nat) (power : Int) : Bool :=
  let (top, bottom) := scaleFraction 10 numerator denominator (-power)
  decide (top < bottom)

def pointOf (numerator denominator : Nat) : Int :=
  let bits : Int := (numerator.log2 : Int) - denominator.log2
  let guess := bits * 30103 / 100000 - 1
  let candidates := [guess, guess + 1, guess + 2, guess + 3]
  (candidates.find? (belowPower numerator denominator)).getD (guess + 4)

/--
The decimal of `places` digits that reads back as `number`, if there is one.
Only the two neighbours of the number on the grid of such decimals can, and
the nearer one is taken when both do.
-/
def withPlaces? (number : Binary64) (numerator denominator : Nat) (point : Int)
    (places : Nat) : Option Decimal :=
  let unit := point - places
  let (top, bottom) := scaleFraction 10 numerator denominator (-unit)
  let below := top / bottom
  let nearest := nearestQuotient top bottom
  let farther := if nearest = below then below + 1 else below
  let readsBack (mantissa : Nat) := decide (Binary64.ofDecimal false mantissa unit = number)
  if readsBack nearest then some (ofScaled nearest unit)
  else if readsBack farther then some (ofScaled farther unit)
  else none

/-- The shortest decimal that reads back as a positive finite number. -/
def shortest (significand : Nat) (exponent : Int) : Decimal :=
  let number := Binary64.finite false significand exponent
  let (numerator, denominator) := scaleFraction 2 significand 1 exponent
  let point := pointOf numerator denominator
  let places := (List.range 17).map (· + 1)
  (places.findSome? (withPlaces? number numerator denominator point)).getD
    (ofScaled numerator 0)

end Decimal

/-- The notation in which a floating-point number is shown. -/
structure NumberText where
  /-- The least and the greatest point written without an exponent. -/
  leastPoint : Int
  greatestPoint : Int
  /-- The least number of digits of an exponent. -/
  exponentWidth : Nat
  nan : String
  infinity : String

namespace NumberText

/--
Numbers from one ten-thousandth up to ten to the sixteenth are written out;
an exponent has a sign and at least two digits.
-/
def plain : NumberText := ⟨-3, 16, 2, "nan", "inf"⟩

/-- A decimal number written out, with at least one digit after the point. -/
def positional (decimal : Decimal) : List Char :=
  let count : Int := decimal.digits.length
  if decimal.point ≤ 0 then
    ['0', '.'] ++ List.replicate (-decimal.point).toNat '0' ++ decimal.digits
  else if count ≤ decimal.point then
    decimal.digits ++ List.replicate (decimal.point - count).toNat '0' ++ ['.', '0']
  else
    decimal.digits.take decimal.point.toNat ++ ['.'] ++
      decimal.digits.drop decimal.point.toNat

/-- A decimal number with one digit before the point and an exponent. -/
def scientific (text : NumberText) (decimal : Decimal) : List Char :=
  let exponent := decimal.point - 1
  let fraction :=
    match decimal.digits with
    | first :: second :: rest => first :: '.' :: second :: rest
    | digits => digits
  let size := Nat.toDigits 10 exponent.natAbs
  fraction ++ ['e', if exponent < 0 then '-' else '+'] ++
    List.replicate (text.exponentWidth - size.length) '0' ++ size

def render (text : NumberText) : Binary64 → String
  | .nan => text.nan
  | .infinity negative => (if negative then "-" else "") ++ text.infinity
  | .finite negative significand exponent =>
      let magnitude :=
        if significand = 0 then ['0', '.', '0']
        else
          let decimal := Decimal.shortest significand exponent
          if text.leastPoint ≤ decimal.point ∧ decimal.point ≤ text.greatestPoint then
            positional decimal
          else
            text.scientific decimal
      (if negative then "-" else "") ++ String.ofList magnitude

end NumberText

def Binary64.text (number : Binary64) : String :=
  NumberText.plain.render number

end Chip8.Numeric
