import Chip8.Calendar
import Chip8.Length
import Chip8.Numeric.Shortest
import Chip8.Text.Integer
import Chip8.Text.Quoted
/-!
The values that a configuration is written in: scalars, lists, and mappings
with scalar keys in the order in which they were given.  Messages show a value
either plainly, or quoted so that a text can be told from a number.
-/

namespace Chip8.Config

open Numeric (Binary64)

/-- A value without parts. -/
inductive Scalar where
  | null
  | truth (value : Bool)
  | integer (value : Int)
  | float (value : Binary64)
  | text (value : Text)
  | date (value : Calendar.Date)
  | moment (value : Calendar.Moment)
  deriving DecidableEq, Repr

namespace Scalar

def plain : Scalar → Text
  | null => "None"
  | truth value => if value then "True" else "False"
  | integer value => toString value
  | float value => value.text
  | text value => value
  | date value => value.text
  | moment value => value.text

/-- The value in a message, written so that it can be told from a text. -/
def quoted : Scalar → Text
  | text value => value.quoted
  | date value => value.quoted
  | moment value => value.quoted
  | scalar => scalar.plain

/-- Whether the value can be shown in a message: an integer may have too many digits. -/
def isShowable : Scalar → Bool
  | integer value => Text.canShow value
  | _ => true

/-- Whether the value counts as true: neither empty, zero nor missing. -/
def isTruthy : Scalar → Bool
  | null => false
  | truth value => value
  | integer value => value != 0
  | float (.finite _ significand _) => significand != 0
  | float _ => true
  | text value => !value.points.isEmpty
  | date _ | moment _ => true

/-- The integer that a number is, if it is whole; the truth values are one and zero. -/
def whole? : Scalar → Option Int
  | truth value => some (if value then 1 else 0)
  | integer value => some value
  | float (.finite negative significand exponent) =>
      let (top, bottom) := Numeric.scaleFraction 2 significand 1 exponent
      if top % bottom = 0 then some (Binary64.signed negative (top / bottom)) else none
  | _ => none

/--
Whether two values are the same key.  Numbers are compared by their size and
moments by the instant; a float that is no number is the same as itself.
-/
def same (left right : Scalar) : Bool :=
  match left.whole?, right.whole? with
  | some left, some right => left = right
  | none, none =>
      match left, right with
      | moment left, moment right => left.same right
      | _, _ => left = right
  | _, _ => false

/-- Whether a number is zero or less; nothing for what is not a number. -/
def isNonpositive? : Scalar → Option Bool
  | truth value => some !value
  | integer value => some (decide (value ≤ 0))
  | float value => some value.isNonpositive
  | null | text _ | date _ | moment _ => none

def ofLength : Length → Scalar
  | .number value => integer value
  | .truth value => truth value

/-- The length that a value asks for: only whole numbers and truth values do. -/
def length? : Scalar → Option Length
  | integer value => some (.number value)
  | truth value => some (.truth value)
  | _ => none

end Scalar

/-- A value of a configuration. -/
inductive Value where
  | scalar (value : Scalar)
  | list (items : List Value)
  | mapping (entries : List (Scalar × Value))
  deriving Repr

namespace Value

mutual

def quoted : Value → Text
  | scalar value => value.quoted
  | list items => "[" ++ Text.join ", " (quotedItems items) ++ "]"
  | mapping entries => "\x7b" ++ Text.join ", " (quotedEntries entries) ++ "\x7d"

def quotedItems : List Value → List Text
  | [] => []
  | item :: rest => item.quoted :: quotedItems rest

def quotedEntries : List (Scalar × Value) → List Text
  | [] => []
  | (key, value) :: rest => (key.quoted ++ ": " ++ value.quoted) :: quotedEntries rest

end

mutual

def isShowable : Value → Bool
  | scalar value => value.isShowable
  | list items => areShowable items
  | mapping entries => entriesAreShowable entries

def areShowable : List Value → Bool
  | [] => true
  | item :: rest => item.isShowable && areShowable rest

def entriesAreShowable : List (Scalar × Value) → Bool
  | [] => true
  | (key, value) :: rest => key.isShowable && value.isShowable && entriesAreShowable rest

end

/-- The value in a message; only texts inside it are in quotes. -/
def plain : Value → Text
  | scalar value => value.plain
  | value => value.quoted

def isTruthy : Value → Bool
  | scalar value => value.isTruthy
  | list items => !items.isEmpty
  | mapping entries => !entries.isEmpty

def length? : Value → Option Length
  | scalar value => value.length?
  | _ => none

/-- Whether the value is an integer that is larger than all floating-point numbers. -/
def exceedsFloats : Value → Bool
  | scalar (.integer value) => (Binary64.ofQuotient? value 1).isNone
  | _ => false

def lookUp? (entries : List (Scalar × Value)) (key : Text) : Option Value :=
  (entries.find? fun entry => entry.1 = .text key).map (·.2)

/-- Entries with one more; a key that is there keeps its place and takes the new value. -/
def insert (entries : List (Scalar × Value)) (key : Scalar) (value : Value) :
    List (Scalar × Value) :=
  if entries.any fun entry => entry.1.same key then
    entries.map fun entry => if entry.1.same key then (entry.1, value) else entry
  else
    entries ++ [(key, value)]

end Value

end Chip8.Config
