import Chip8.Calendar
import Chip8.Yaml.Digits
/-!
The spellings of days and moments in plain scalars.  A day alone has four
digits and twice two; before a time of day the month and the day may have one
digit.  A fraction of a second counts up to the microsecond, and a distance
from universal time may follow, in hours and minutes or as `Z`.
-/

namespace Chip8.Yaml

open Calendar (Date Moment)

/-- A day or a moment. -/
inductive Timestamp where
  | date (value : Date)
  | moment (value : Moment)
  deriving DecidableEq, Repr

namespace Timestamp

/-- From `least` to `most` digits, their value, and what follows them. -/
def digits? (least most : Nat) (characters : List Char) : Option (Nat × List Char) :=
  let digits := (characters.take most).takeWhile Char.isDigit
  if least ≤ digits.length then some (decimalValue digits, characters.drop digits.length)
  else none

/-- What follows a mark that must come next. -/
def behind? (mark : Char) : List Char → Option (List Char)
  | first :: rest => if first = mark then some rest else none
  | [] => none

/-- Year, month and day; the last two have `least` digits at least. -/
def day? (least : Nat) (characters : List Char) : Option ((Nat × Nat × Nat) × List Char) := do
  let (year, rest) ← digits? 4 4 characters
  let (month, rest) ← digits? least 2 (← behind? '-' rest)
  let (day, rest) ← digits? least 2 (← behind? '-' rest)
  return ((year, month, day), rest)

def clock? (characters : List Char) : Option ((Nat × Nat × Nat) × List Char) := do
  let (hour, rest) ← digits? 1 2 characters
  let (minute, rest) ← digits? 2 2 (← behind? ':' rest)
  let (second, rest) ← digits? 2 2 (← behind? ':' rest)
  return ((hour, minute, second), rest)

/-- What follows the letter or the blanks between a day and a time. -/
def behindSeparator? (characters : List Char) : Option (List Char) :=
  match characters with
  | 'T' :: rest | 't' :: rest => some rest
  | character :: rest => if isSpaceOrTab character then some (rest.dropWhile isSpaceOrTab) else none
  | [] => none

/-- A fraction of a second in microseconds, and what follows it; it may be missing. -/
def fraction (characters : List Char) : Nat × List Char :=
  match characters with
  | '.' :: rest =>
      let digits := rest.takeWhile Char.isDigit
      (decimalValue ((digits ++ List.replicate 6 '0').take 6), rest.drop digits.length)
  | _ => (0, characters)

/-- A distance from universal time in minutes, at the end of a moment; it may be missing. -/
def ahead? (characters : List Char) : Option (Option Int) :=
  if characters.isEmpty then some none
  else
    match characters.dropWhile isSpaceOrTab with
    | ['Z'] => some (some 0)
    | sign :: rest =>
        if sign = '+' || sign = '-' then do
          let (hours, rest) ← digits? 1 2 rest
          let (minutes, rest) ←
            if rest.isEmpty then some (0, []) else digits? 2 2 (← behind? ':' rest)
          if rest.isEmpty then return some (Text.withSign (sign = '-') (60 * hours + minutes))
          else none
        else none
    | [] => none

def named {Value : Type} (value : Option Value) : Except Error Value :=
  match value with
  | some value => .ok value
  | none => .error .noValue

/-- The day that characters spell, if they have the form of one. -/
def dateOf? (characters : List Char) : Option (Except Error Date) :=
  match day? 2 characters with
  | some ((year, month, day), []) => some (named (Date.of? year month day))
  | _ => none

/-- The moment that characters spell, if they have the form of one. -/
def momentOf? (characters : List Char) : Option (Except Error Moment) := do
  let ((year, month, day), rest) ← day? 1 characters
  let ((hour, minute, second), rest) ← clock? (← behindSeparator? rest)
  let (microsecond, rest) := fraction rest
  let ahead ← ahead? rest
  return named do
    let date ← Date.of? year month day
    Moment.of? date hour minute second microsecond ahead

/-- The day or moment that a plain scalar spells, if it has the form of one. -/
def of? (characters : List Char) : Option (Except Error Timestamp) :=
  match dateOf? characters with
  | some day => some (day.map .date)
  | none => (momentOf? characters).map (·.map .moment)

end Timestamp

end Chip8.Yaml
