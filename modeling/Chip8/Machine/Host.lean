import Chip8.Disassembly
import Chip8.Machine.Step
/-!
What a host may do with a machine.  `HostEvent` is the closed list of the
operations that a program run is made of; the other operations set single
parts, each with that part's own checks.
-/

namespace Chip8

open Numeric (Binary64)

/-- An operation of the host on a running machine. -/
inductive HostEvent where
  /-- Load a program; nothing else is reset. -/
  | load (program : List Int)
  /-- Press or release a key; this never ends a wait. -/
  | key (key : Int) (pressed : Bool)
  | runState (state : RunState)
  | reset (now : Binary64)
  | step (readings : Readings)
  deriving DecidableEq, Repr

abbrev HostEvent.Result := Option (Snapshot RegisterView)

namespace Machine

/-- Make a change of the core as a whole or not at all. -/
def change (update : Core → Except Fault Core) : EStateM Fault Machine Unit :=
  Counted.onCore (attempt update)

def perform : HostEvent → EStateM Fault Machine HostEvent.Result
  | .load program => do
      change (·.tryMemory (·.load program))
      return none
  | .key key pressed => do
      change fun core => do
        let keypad ← core.keypad.set key pressed
        return { core with keypad }
      return none
  | .runState state => do
      change fun core => .ok { core with runState := state }
      return none
  | .reset now => do
      modify (·.reset now)
      return none
  | .step readings => do
      let snapshot ← step readings
      return some snapshot

def loadFill (byte count : Int) : EStateM Fault Machine Unit :=
  change (·.tryMemory (·.loadFill byte count))

def setRegister (number value : Int) : EStateM Fault Machine Unit :=
  change fun core => do
    let registers ← core.registers.write number value
    return { core with registers }

/-- Put values in the general registers from `number` on, until one fails. -/
def setRegistersFrom (number : Int) : List Int → EStateM Fault Machine Unit
  | [] => return
  | value :: rest => do
      setRegister number value
      setRegistersFrom (number + 1) rest

def setIndex (address : Int) : EStateM Fault Machine Unit :=
  change (·.tryMemory (·.setIndex address))

def jump (address : Int) : EStateM Fault Machine Unit :=
  change (·.jumpTo address)

def push (address : Int) : EStateM Fault Machine Unit :=
  change fun core => do
    let stack ← core.stack.push address
    return { core with stack }

def setDelay (value : Int) (now : Binary64) : EStateM Fault Machine Unit :=
  change fun core => .ok { core with delay := .store value now }

def setSound (value : Int) : EStateM Fault Machine Unit :=
  change fun core => do
    let sound ← SoundTimer.store value
    return { core with sound }

def poke (address : Int) (block : List Int) : EStateM Fault Machine Unit :=
  change (·.tryMemory fun memory => do
    let ram ← memory.ram.writeBlock address block
    return { memory with ram })

/-- Put an instruction word of sixteen bits at the program counter. -/
def pokeNext (word : Int) : EStateM Fault Machine Unit := do
  let address := (← get).core.memory.programCounter
  poke address [word / 256, word % 256]

/-- Draw on the screen without an instruction; tells whether a lit cell went out. -/
def draw (x y : Int) (rows : List Int) : EStateM Fault Machine Bool := do
  let (display, collision) := (← get).core.display.draw x y rows
  change fun core => .ok { core with display }
  return collision

def disassemble (machine : Machine) (start length : Int) :
    Except Fault (List ListingLine) :=
  machine.core.memory.disassemble start length machine.core.dialect.jumpsByX

end Machine

end Chip8
