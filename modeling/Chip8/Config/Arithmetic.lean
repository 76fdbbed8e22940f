import Chip8.Config.Value
import Chip8.DelayTimer
import Chip8.Numeric.FloorDivision
/-!
Arithmetic on the values that a host gives.  Truth values count as the integers
one and zero, floats stay floats, and what is no number is refused.
-/

namespace Chip8.Config.Value

open Numeric (Binary64)

/-- The integer that a value must be; a float is none, even if it is whole. -/
def integer (value : Value) : Except Fault Int :=
  match value.length? with
  | some length => .ok length.value
  | none => .error .argumentType

/-- The hundreds, tens and ones of a number; those of a float are floats. -/
def decimalDigits : Value → Except Fault (List Value)
  | scalar (.float number) =>
      let tens := (number.floorQuotient 10).remainder 10
      .ok ([number.floorQuotient 100, tens, number.remainder 10].map fun digit =>
        scalar (.float digit))
  | value => do
      let (hundreds, tens, ones) := Word.decimalDigits (← value.integer)
      return [hundreds, tens, ones].map fun digit => scalar (.integer digit)

/-- What is left of a number after some ticks; it stops at zero. -/
def countDown (ticks : Int) : Value → Except Fault Value
  | scalar (.float number) =>
      let rest := number.sub (.ofDyadic ticks 0)
      .ok (scalar (if rest.isNegative then .integer 0 else .float rest))
  | value => do
      let number ← value.integer
      return scalar (.integer (max (number - ticks) 0))

/--
The value of a delay timer and its reference time at present.  While no whole
tick has passed both stay as they were, and the value need not be a number.
-/
def projectDelay (value : Value) (reference now : Binary64) :
    Except Fault (Value × Binary64) := do
  let ticks ← DelayTimer.ticks reference now
  if ticks ≤ 0 then return (value, reference)
  return (← value.countDown ticks, now)

/-- On integers this is what the timer itself does. -/
theorem projectDelay_integer (number : Int) (reference now : Binary64) :
    projectDelay (scalar (.integer number)) reference now =
      (DelayTimer.project number reference now).map fun (number, reference) =>
        (scalar (.integer number), reference) := by
  unfold projectDelay DelayTimer.project
  cases DelayTimer.ticks reference now with
  | error fault => rfl
  | ok ticks =>
      simp only [bind, Except.bind, pure, Except.pure, Except.map]
      split <;> rfl

end Chip8.Config.Value
