import Chip8.Proofs.Machine.Footprint
import Mathlib
/-!
Waiting for a key.  An instruction that finds no key down leaves the machine at
its own address and makes it wait; only the host ends the wait, and the
instruction is then tried again with the keys that are down by that time.  A
cycle of a waiting machine does nothing at all, so that such cycles can be
taken out of any run.
-/

namespace Chip8

open Numeric (Binary64)

namespace Keypad

instance decidableAllUp (keypad : Keypad) : Decidable keypad.AllUp :=
  inferInstanceAs (Decidable (∀ key : Fin 16, keypad.keys.get key = false))

end Keypad

namespace HostEvent

def isStep : HostEvent → Bool
  | .step _ => true
  | _ => false

/-- The operation is one of a host that serves a wait: a cycle, a key, or to let it run. -/
def attends : HostEvent → Bool
  | .step _ | .key _ _ | .runState .running => true
  | .load _ | .runState _ | .reset _ => false

end HostEvent

namespace Machine

def unmarked (machine : Machine) : Machine :=
  ⟨machine.core.begun, machine.cycleCount⟩

/-- The operation is a cycle that finds the machine waiting. -/
def WaitsAt (machine : Machine) (event : HostEvent) : Prop :=
  machine.core.runState = .awaitingKey ∧ event.isStep = true

instance decidableWaitsAt (machine : Machine) (event : HostEvent) :
    Decidable (machine.WaitsAt event) :=
  inferInstanceAs (Decidable (_ ∧ _))

variable {machine left right : Machine}

end Machine

namespace Core

/-- A later core has kept all that a wait for a key must not change. -/
structure HeldIn (core later : Core) : Prop where
  counter : later.memory.programCounter = core.memory.programCounter
  ram : later.memory.ram = core.memory.ram
  index : later.memory.index = core.memory.index
  registers : later.registers = core.registers
  stack : later.stack = core.stack
  display : later.display = core.display
  delay : later.delay = core.delay

variable {core later last : Core}

theorem HeldIn.trans (first : core.HeldIn later) (second : later.HeldIn last) :
    core.HeldIn last where
  counter := second.counter.trans first.counter
  ram := second.ram.trans first.ram
  index := second.index.trans first.index
  registers := second.registers.trans first.registers
  stack := second.stack.trans first.stack
  display := second.display.trans first.display
  delay := second.delay.trans first.delay

theorem HeldIn.nextWord (held : core.HeldIn later) : later.nextWord = core.nextWord := by
  simp only [Core.nextWord, Memory.wordAt, Memory.byteAt, held.counter, held.ram]

end Core

namespace Machine

variable {machine : Machine} {readings : Readings}

/-- The cycle finds the machine ready and a key down. -/
def Answers (machine : Machine) (event : HostEvent) : Prop :=
  event.isStep = true ∧ machine.core.runState ≠ .awaitingKey ∧ ¬ machine.core.keypad.AllUp

instance decidableAnswers (machine : Machine) (event : HostEvent) :
    Decidable (machine.Answers event) :=
  inferInstanceAs (Decidable (_ ∧ _ ∧ _))

/-- The host serves the wait, but no cycle finds the machine ready and a key down. -/
def Unanswered (machine : Machine) (events : List HostEvent) : Prop :=
  machine.Throughout (fun current event => event.attends = true ∧ ¬ current.Answers event) events

instance decidableUnanswered (machine : Machine) (events : List HostEvent) :
    Decidable (machine.Unanswered events) :=
  inferInstanceAs (Decidable (machine.Throughout _ events))

end Machine

end Chip8
