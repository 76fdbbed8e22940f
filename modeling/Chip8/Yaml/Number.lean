import Chip8.Numeric.Binary64
import Chip8.Yaml.Digits
/-!
The spellings of numbers in plain scalars: integers in the bases two, eight,
ten and sixteen, numbers with a point, and both in base sixty with colons
between the parts.  Underscores may stand between digits.
-/

namespace Chip8.Yaml

open Numeric (Binary64)

/-- Digits without the underscores between them. -/
def withoutUnderscores (digits : List Char) : List Char :=
  digits.filter (· != '_')

def allOf (isDigit : Char → Bool) (characters : List Char) : Bool :=
  !characters.isEmpty && characters.all fun character => isDigit character || character = '_'

/-- Whether characters are a decimal number that starts with a digit. -/
def isDecimal (characters : List Char) : Bool :=
  (characters.head?.map Char.isDigit).getD false && allOf Char.isDigit characters

/-- Whether a part of a number in base sixty is one or two digits below sixty. -/
def isSixtieth : List Char → Bool
  | [ones] => ones.isDigit
  | [tens, ones] => '0' ≤ tens && tens ≤ '5' && ones.isDigit
  | _ => false

def splitColons (characters : List Char) : List (List Char) :=
  characters.splitOn ':'

/-- The value of digits in a base that is a power of two; there must be one at least. -/
def binaryValue (base : Nat) (digits : List Char) : Except Error Nat :=
  match withoutUnderscores digits with
  | [] => .error .noValue
  | digits => ((digitsValue? base digits).map .ok).getD (.error .noValue)

def sixtiethsValue (parts : List (List Char)) : Except Error Nat := do
  let parts ← parts.mapM fun part => wholeValue (withoutUnderscores part)
  return parts.foldl (fun value part => 60 * value + part) 0

/-- The integer that unsigned characters spell, if they have the form of one. -/
def naturalOf? (characters : List Char) : Option (Except Error Nat) :=
  match characters with
  | '0' :: 'b' :: digits =>
      if allOf (fun digit => digit = '0' || digit = '1') digits then some (binaryValue 2 digits)
      else none
  | '0' :: 'x' :: digits =>
      if allOf (fun digit => (hexDigit? digit).isSome) digits then some (binaryValue 16 digits)
      else none
  | ['0'] => some (.ok 0)
  | '0' :: digits =>
      if allOf (fun digit => '0' ≤ digit && digit ≤ '7') digits then
        some (binaryValue 8 ('0' :: digits))
      else none
  | _ =>
      match splitColons characters with
      | first :: rest =>
          if isDecimal first && rest.all isSixtieth then some (sixtiethsValue (first :: rest))
          else none
      | [] => none

/-- The integer that a plain scalar spells, if it has the form of one. -/
def integerOf? (characters : List Char) : Option (Except Error Int) :=
  let (negative, digits) := Text.splitSign characters
  (naturalOf? digits).map fun value => value.map (Text.withSign negative)

/-- An exponent, which must have a sign; nothing stands for none. -/
def exponentOf? : List Char → Option Int
  | [] => some 0
  | mark :: sign :: digits =>
      if (mark = 'e' || mark = 'E') && (sign = '+' || sign = '-') && !digits.isEmpty &&
          digits.all Char.isDigit then
        some (Text.withSign (sign = '-') (decimalValue digits))
      else none
  | _ => none

/-- The number with a point that characters without a sign spell. -/
def decimalOf? (negative : Bool) (characters : List Char) : Option Binary64 := do
  let (whole, rest) := characters.span (· != '.')
  let isDigit (character : Char) := character.isDigit || character = '_'
  let fraction := rest.tail.takeWhile isDigit
  let exponent ← exponentOf? (rest.tail.dropWhile isDigit)
  if rest.isEmpty then none
  else if !isDecimal (if whole.isEmpty then fraction else whole) then none
  else
    let digits := withoutUnderscores (whole ++ fraction)
    some (.ofDecimal negative (decimalValue digits)
      (exponent - (withoutUnderscores fraction).length))

/--
The sum of parts in base sixty, the last part first.  Every power of sixty,
every product and every sum is rounded; a power that is too large is an error
even before a part that is zero.
-/
def sixtiethsSum (parts : List Binary64) : Except Error Binary64 :=
  parts.zipIdx.foldlM (fun sum (part, power) =>
    match Binary64.ofQuotient? (Nat.pow 60 power) 1 with
    | some unit => .ok (sum.add (part.mul unit))
    | none => .error .tooLarge) .zero

/-- The number with a point in base sixty that characters without a sign spell. -/
def sixtiethsOf? (negative : Bool) (characters : List Char) :
    Option (Except Error Binary64) := do
  let fraction := characters.dropWhile (· != '.')
  match splitColons (characters.takeWhile (· != '.')) with
  | first :: second :: rest =>
      if isDecimal first && (second :: rest).all isSixtieth && fraction.head? = some '.' &&
          fraction.tail.all (fun character => character.isDigit || character = '_') then
        let last ← decimalOf? false ((second :: rest).getLast (by simp) ++ fraction)
        let wholes := (first :: second :: rest).dropLast.reverse.map fun part =>
          Binary64.ofDecimal false (decimalValue (withoutUnderscores part)) 0
        return (sixtiethsSum (last :: wholes)).map fun sum => if negative then sum.neg else sum
      else none
  | _ => none

/-- The number with a point that a plain scalar spells, if it has the form of one. -/
def floatOf? (characters : List Char) : Option (Except Error Binary64) :=
  let (negative, rest) := Text.splitSign characters
  let signed := rest.length != characters.length
  let word := String.ofList rest
  if [".inf", ".Inf", ".INF"].contains word then some (.ok (.infinity negative))
  else if !signed && [".nan", ".NaN", ".NAN"].contains word then some (.ok .nan)
  else if signed && rest.head? = some '.' then none
  else (sixtiethsOf? negative rest).or ((decimalOf? negative rest).map .ok)

end Chip8.Yaml
