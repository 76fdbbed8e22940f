import Chip8.Cycle.Operation
import Chip8.Text.Hex
/-!
The instruction cycle, for any architecture: preparation, the test for a halt,
fetching, decoding, execution, follow-up, and a snapshot for the host.  The
cycle count lies outside the state that an architecture's actions can change;
only the cycle itself adds to it, once for every snapshot of an instruction.

A fault ends the cycle where it occurs, and the state stays as it was left.
-/

namespace Chip8

/-- What a host is given after a cycle. -/
structure Snapshot (View : Type) where
  view : View
  operation : Operation
  cycleCount : Int
  symbol : Option String
  /-- Whether the picture changed. -/
  redraw : Bool
  deriving DecidableEq, Repr

/-- The state of an architecture together with the cycle count. -/
structure Counted (Core : Type) where
  core : Core
  cycleCount : Int
  deriving DecidableEq

namespace Counted

variable {Problem Core Result : Type}

/-- An action of the architecture, which leaves the cycle count alone. -/
def onCore (action : EStateM Problem Core Result) : EStateM Problem (Counted Core) Result :=
  fun state =>
    match action state.core with
    | .ok result core => .ok result { state with core }
    | .error problem core => .error problem { state with core }

def count : EStateM Problem (Counted Core) Int := fun state =>
  .ok state.cycleCount state

/-- Add to the cycle count. -/
def addCycles (cycles : Int) : EStateM Problem (Counted Core) Unit := fun state =>
  .ok () { state with cycleCount := state.cycleCount + cycles }

end Counted

/--
What an architecture brings to the cycle.  `Problem` is the type of its
faults, `Core` of its state, `Decoded` of its instructions and `View` of the
registers that a host is shown.
-/
structure Architecture (Problem Core Decoded View : Type) where
  /-- What is done before anything else. -/
  begin : EStateM Problem Core Unit := pure ()
  address : EStateM Problem Core Int
  /-- The snapshot of a machine that does not run, for a cycle count and an address. -/
  halted? : Int → Int → EStateM Problem Core (Option (Snapshot View)) := fun _ _ => pure none
  /-- Read the next word and move on to the one behind it. -/
  fetch : EStateM Problem Core Int
  decode : Int → EStateM Problem Core Decoded
  execute : Decoded → EStateM Problem Core Unit
  finish : EStateM Problem Core Unit := pure ()
  describe : Decoded → EStateM Problem Core Operation
  view : EStateM Problem Core View
  redraw : EStateM Problem Core Bool := pure false

namespace Architecture

variable {Problem Core Decoded View : Type}

/-- The line that tells the address and the text of an instruction. -/
def symbolOf (address : Int) (text : String) : String :=
  Text.HexLayout.cycleAddress.render address ++ ": " ++ text

def conclude (architecture : Architecture Problem Core Decoded View) (address : Int)
    (operation : Operation) : EStateM Problem (Counted Core) (Snapshot View) := do
  Counted.addCycles operation.cycles
  let view ← Counted.onCore architecture.view
  let cycleCount ← Counted.count
  let redraw ← Counted.onCore architecture.redraw
  return { view, operation, cycleCount, redraw, symbol := symbolOf address operation.text }

/-- The part of a cycle that a halted machine does not reach. -/
def carryOut (architecture : Architecture Problem Core Decoded View) :
    EStateM Problem Core Operation := do
  let word ← architecture.fetch
  let decoded ← architecture.decode word
  architecture.execute decoded
  architecture.finish
  architecture.describe decoded

def step (architecture : Architecture Problem Core Decoded View) :
    EStateM Problem (Counted Core) (Snapshot View) := do
  Counted.onCore architecture.begin
  let address ← Counted.onCore architecture.address
  let cycleCount ← Counted.count
  match ← Counted.onCore (architecture.halted? cycleCount address) with
  | some snapshot => return snapshot
  | none =>
      let operation ← Counted.onCore architecture.carryOut
      architecture.conclude address operation

end Architecture

end Chip8
