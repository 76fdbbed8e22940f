import Chip8.CallStack
import Chip8.Cycle
import Chip8.DelayTimer
import Chip8.Dialect
import Chip8.Display
import Chip8.Keypad
import Chip8.Machine.RunState
import Chip8.Memory
import Chip8.Random.Source
import Chip8.Registers
import Chip8.SoundTimer
/-!
The machine: memory, registers, stack, timers, keys, screen and the source of
random bytes, with the cycle count around them.  The clock is not a part of
it; its readings come with each operation that needs them.
-/

namespace Chip8

open Numeric (Binary64)

/-- All of the machine but its cycle count. -/
structure Core where
  dialect : Dialect
  memory : Memory
  registers : Registers
  stack : CallStack
  delay : DelayTimer
  sound : SoundTimer
  keypad : Keypad
  display : Display
  runState : RunState
  /-- Whether the picture has changed since the last cycle began. -/
  redraw : Bool
  random : Random.Source
  deriving DecidableEq

abbrev Machine := Counted Core

/--
The readings of the clock that one cycle can take: an instruction on the
delay timer takes one, and the snapshot after it another.
-/
structure Readings where
  execution : Binary64
  snapshot : Binary64
  deriving DecidableEq, Repr

/-- A clock that stands still during a cycle. -/
def Readings.still (now : Binary64) : Readings := ⟨now, now⟩

namespace Core

/-- A core with nothing in it but the glyphs. -/
def initial (dialect : Dialect) (display : Display) (random : Random.Source)
    (now : Binary64) : Core where
  dialect := dialect
  memory := .initial
  registers := .initial
  stack := .empty
  delay := .stopped now
  sound := .silent
  keypad := .released
  display := display
  runState := .running
  redraw := true
  random := random

/-- Everything as at the start, save that the random bytes go on. -/
def reset (core : Core) (now : Binary64) : Core where
  dialect := core.dialect
  memory := .initial
  registers := .initial
  stack := .empty
  delay := .stopped now
  sound := .silent
  keypad := .released
  display := core.display.clear
  runState := .running
  redraw := true
  random := core.random

end Core

namespace Machine

/-- A new machine; its dialect must name a screen that exists. -/
def create (dialect : Dialect) (random : Random.Source) (now : Binary64) :
    Except Fault Machine := do
  let display ← Display.create dialect.displayWidth dialect.displayHeight
  return ⟨Core.initial dialect display random now, 0⟩

/-- The machine as at the start, save that the random bytes go on. -/
def reset (machine : Machine) (now : Binary64) : Machine :=
  ⟨machine.core.reset now, 0⟩

end Machine

end Chip8
