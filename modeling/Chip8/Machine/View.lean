import Chip8.Machine
/-!
What a host sees of the machine's registers, and how it may lay them out.
-/

namespace Chip8

open Numeric (Binary64)

/-- The values of the registers at one time; changing it does not change the machine. -/
structure RegisterView where
  programCounter : Int := 0
  stackDepth : Int := 0
  registers : List Int := List.replicate 16 0
  index : Int := 0
  delay : Int := 0
  sound : Int := 0
  runState : RunState := .running
  deriving DecidableEq, Repr

/-- The value of the flag register, if there are that many registers. -/
def RegisterView.flag (view : RegisterView) : Except Fault Int :=
  match view.registers[15]? with
  | some value => .ok value
  | none => .error .registerNumber

/-- The name and the width in bits of a register. -/
structure RegisterLabel where
  name : String
  width : Nat
  deriving DecidableEq, Repr

/-- A group of registers that belong together on a panel. -/
structure RegisterGroup where
  name : String
  registers : List RegisterLabel
  deriving DecidableEq, Repr

def registerName (number : Nat) : String :=
  "V" ++ Text.HexLayout.operand.render number

def registerGroups : List RegisterGroup :=
  [⟨"General", (List.range 16).map fun number => ⟨registerName number, 8⟩⟩,
   ⟨"Address", [⟨"I", 16⟩, ⟨"PC", 16⟩, ⟨"SP", 8⟩]⟩,
   ⟨"Timers", [⟨"DT", 8⟩, ⟨"ST", 8⟩]⟩]

namespace Core

def view (core : Core) (now : Binary64) : Except Fault RegisterView := do
  let delay ← core.delay.peek now
  return {
    programCounter := core.memory.programCounter
    stackDepth := core.stack.depth
    registers := core.registers.values.toList.map fun value => (value.toNat : Int)
    index := core.memory.index
    delay := delay.toNat
    sound := core.sound.value.toNat
    runState := core.runState }

def registerMap (core : Core) (now : Binary64) : Except Fault (List (String × Int)) := do
  let view ← core.view now
  let general := view.registers.zipIdx.map fun (value, number) => (registerName number, value)
  return general ++
    [("I", view.index), ("PC", view.programCounter), ("SP", view.stackDepth),
     ("DT", view.delay), ("ST", view.sound)]

def flags (core : Core) : List (String × Bool) :=
  [("VF", core.registers.flag != 0)]

end Core

end Chip8
