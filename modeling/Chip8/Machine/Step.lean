import Chip8.Machine.Execute
import Chip8.Machine.View
/-!
The machine on the common cycle.  A cycle that finds the machine waiting for a
key does nothing but clear the redraw mark.  The sound timer goes down once in
every cycle that carries out an instruction.
-/

namespace Chip8

open Numeric (Binary64)

namespace Core

/-- What is shown instead of an instruction while the machine waits for a key. -/
def waitOperation : Operation := ⟨"----", "WAIT", ["K"], 0, 2⟩

def viewAction (now : Binary64) : Action RegisterView := fun core =>
  match core.view now with
  | .ok view => .ok view core
  | .error fault => .error fault core

def waiting? (now : Binary64) (cycleCount address : Int) :
    Action (Option (Snapshot RegisterView)) := do
  if (← get).runState = .awaitingKey then
    let view ← viewAction now
    return some ⟨view, waitOperation, cycleCount,
      Architecture.symbolOf address waitOperation.text, false⟩
  else
    return none

def fetch : Action Int := fun core =>
  match core.memory.fetch with
  | .ok word memory => .ok word { core with memory }
  | .error fault memory => .error fault { core with memory }

def decode (word : Int) : Action Instruction := fun core =>
  match Instruction.decode word with
  | .ok instruction => .ok instruction core
  | .error fault => .error fault core

/-- The machine as an architecture, for the readings of the clock in one cycle. -/
def architecture (readings : Readings) :
    Architecture Fault Core Instruction RegisterView where
  begin := modify fun core => { core with redraw := false }
  address := return (← get).memory.programCounter
  halted? := waiting? readings.snapshot
  fetch := fetch
  decode := decode
  execute instruction := instruction.execute readings.execution
  finish := modify fun core => { core with sound := core.sound.decrease }
  describe instruction := return instruction.operation (← get).dialect.jumpsByX
  view := viewAction readings.snapshot
  redraw := return (← get).redraw

end Core

namespace Machine

def step (readings : Readings) : EStateM Fault Machine (Snapshot RegisterView) :=
  (Core.architecture readings).step

/-- One cycle, of which only the redraw mark is wanted. -/
def executeCycle (readings : Readings) : EStateM Fault Machine Bool := do
  let snapshot ← step readings
  return snapshot.redraw

end Machine

end Chip8
