import Chip8.Fault
import Chip8.Numeric.Binary64
/-!
The delay timer.  It counts down sixty times a second of the host's clock, but
does not tick by itself: its value is worked out from the clock when it is
read.  Reading it moves the reference time to the present, and drops the part
of a tick that has passed; looking at it changes nothing.
-/

namespace Chip8

open Numeric (Binary64)

namespace DelayTimer

def ticksPerSecond : Nat := 60

/-- A reading of the clock, given as a quotient that must not be too large. -/
def reading (numerator denominator : Int) : Except Fault Binary64 :=
  match Binary64.ofQuotient? numerator denominator with
  | some reading => .ok reading
  | none => .error .readingTooLarge

/-- The whole ticks from a reference time to the present. -/
def ticks (reference now : Binary64) : Except Fault Int :=
  let elapsed := (now.sub reference).scale ticksPerSecond
  match elapsed, elapsed.truncate? with
  | _, some count => .ok count
  | .nan, none => .error .ticksUndefined
  | _, none => .error .ticksInfinite

/--
The value and the reference time at present.  While no whole tick has passed
both stay as they were.
-/
def project (value : Int) (reference now : Binary64) : Except Fault (Int × Binary64) := do
  let count ← ticks reference now
  return if count ≤ 0 then (value, reference) else (max (value - count) 0, now)

end DelayTimer

/-- A delay timer: the value it had at its reference time. -/
structure DelayTimer where
  value : UInt8
  reference : Binary64
  deriving DecidableEq, Repr

namespace DelayTimer

def stopped (now : Binary64) : DelayTimer := ⟨0, now⟩

/-- Set the value, of which the low eight bits count. -/
def store (value : Int) (now : Binary64) : DelayTimer :=
  ⟨Word.lowByte value, now⟩

/-- The timer at present.  A timer at zero does not look at the clock. -/
def load (timer : DelayTimer) (now : Binary64) : Except Fault DelayTimer :=
  if timer.value = 0 then .ok timer
  else do
    let (value, reference) ← project timer.value.toNat timer.reference now
    return ⟨Word.lowByte value, reference⟩

/-- The value at present, without moving the reference time. -/
def peek (timer : DelayTimer) (now : Binary64) : Except Fault UInt8 :=
  (timer.load now).map (·.value)

end DelayTimer

end Chip8
