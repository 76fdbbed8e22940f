import Chip8.Instruction
import Chip8.Machine
import Chip8.Registers.Arithmetic
/-!
What each instruction does.  Every effect is a function on the core that
either changes it as a whole or fails; `attempt` keeps the old core on a
failure.  A call and a return have two such effects in a row, and what the
first has done to the stack stays when the jump fails.
-/

namespace Chip8

open Numeric (Binary64)

/-- An action on the core.  The core that a fault leaves behind is kept. -/
abbrev Action := EStateM Fault Core

/-- Make a change as a whole or not at all. -/
def attempt (change : Core → Except Fault Core) : Action Unit := fun core =>
  match change core with
  | .ok changed => .ok () changed
  | .error fault => .error fault core

namespace Core

def register (core : Core) (number : Fin 16) : UInt8 :=
  core.registers.get number

def mapRegisters (core : Core) (change : Registers → Registers) : Core :=
  { core with registers := change core.registers }

/-- Change the memory, if that does not fail. -/
def tryMemory (core : Core) (change : Memory → Except Fault Memory) :
    Except Fault Core := do
  let memory ← change core.memory
  return { core with memory }

def jumpTo (core : Core) (address : Int) : Except Fault Core :=
  core.tryMemory (·.jump address)

def offsetTarget (core : Core) (address : Int) (x : Fin 16) : Int :=
  let offset := core.register (if core.dialect.jumpsByX then x else Registers.offsetNumber)
  (address + offset.toNat) % 0x10000

/-- Pass over the next instruction if a condition holds. -/
def skipWhen (core : Core) (condition : Bool) : Core :=
  if condition then { core with memory := core.memory.advance } else core

/-- Pass over the next instruction if the key named by a register is down, or is not. -/
def skipOnKey (core : Core) (x : Fin 16) (wanted : Bool) : Except Fault Core := do
  let down ← core.keypad.isDown (core.register x).toNat
  return core.skipWhen (down == wanted)

def pushReturn (core : Core) : Except Fault Core := do
  let stack ← core.stack.push core.memory.programCounter
  return { core with stack }

/-- Take the latest return address from the stack. -/
def popReturn : Action Int := fun core =>
  match core.stack.pop with
  | .ok (address, stack) => .ok address { core with stack }
  | .error fault => .error fault core

def shiftSource (core : Core) (x y : Fin 16) : UInt8 :=
  core.register (if core.dialect.shiftsY then y else x)

def combine (core : Core) (join : UInt8 → UInt8 → UInt8) (x y : Fin 16) : Core :=
  core.mapRegisters (·.combine join x y core.dialect.logicClearsFlag)

def drawRandom (core : Core) (x : Fin 16) (mask : UInt8) : Core :=
  let (byte, random) := core.random.next
  { core with registers := core.registers.set x (byte &&& mask), random }

def readDelay (core : Core) (x : Fin 16) (now : Binary64) : Except Fault Core := do
  let delay ← core.delay.load now
  return { core with delay, registers := core.registers.set x delay.value }

def setDelay (core : Core) (x : Fin 16) (now : Binary64) : Core :=
  { core with delay := .store (core.register x).toNat now }

def setSound (core : Core) (x : Fin 16) : Except Fault Core := do
  let sound ← SoundTimer.store (core.register x).toNat
  return { core with sound }

/--
Put the lowest key that is down in a register.  If there is none, go back to
this instruction and wait for the host.
-/
def awaitKey (core : Core) (x : Fin 16) : Core :=
  match core.keypad.firstDown? with
  | some key => core.mapRegisters (·.set x (UInt8.ofNat key.val))
  | none => { core with memory := core.memory.rewind, runState := .awaitingKey }

/-- Add a register to the index register. -/
def addIndex (core : Core) (x : Fin 16) : Except Fault Core := do
  let wraps := core.dialect.flagsIndex
  let (passed, memory) ← core.memory.addIndex (core.register x).toNat wraps
  return { core with
    memory
    registers := if wraps then core.registers.setFlag passed else core.registers }

/-- Move the index register behind the bytes of `V0..VX`, if the dialect does. -/
def finishTransfer (core : Core) (x : Fin 16) : Core :=
  if core.dialect.movesIndex then
    { core with memory := core.memory.moveIndex (x.val + 1) }
  else
    core

/-- Put `V0..VX` in memory. -/
def storeRegisters (core : Core) (x : Fin 16) : Except Fault Core := do
  let stored ← core.tryMemory (·.writeWindow (core.registers.dump x.val))
  return stored.finishTransfer x

/-- Fill `V0..VX` from memory. -/
def loadRegisters (core : Core) (x : Fin 16) : Except Fault Core := do
  let bytes ← core.memory.readWindow (x.val + 1)
  return (core.mapRegisters (·.loadBytes bytes)).finishTransfer x

def clearScreen (core : Core) : Core :=
  { core with display := core.display.clear, redraw := true }

/-- Draw a sprite of `rows` bytes at the place that two registers give. -/
def drawSprite (core : Core) (x y rows : Fin 16) : Except Fault Core := do
  let sprite ← core.memory.readWindow rows.val
  let (display, collision) :=
    core.display.draw (core.register x).toNat (core.register y).toNat
      (sprite.map fun byte => (byte.toNat : Int))
  return { core with
    display
    registers := core.registers.setFlag collision
    redraw := true }

end Core

namespace Instruction

/-- Carry out an instruction.  The clock is read by those on the delay timer only. -/
def execute (instruction : Instruction) (now : Binary64) : Action Unit :=
  let x := instruction.x
  let y := instruction.y
  let byte := instruction.byte
  let address := instruction.address
  match instruction.opcode with
  | .clear => modify fun core => core.clearScreen
  | .ret => do
      let target ← Core.popReturn
      attempt (·.jumpTo target)
  | .jump => attempt (·.jumpTo address)
  | .call => do
      attempt (·.pushReturn)
      attempt (·.jumpTo address)
  | .skipEqualByte => modify fun core => core.skipWhen (core.register x == byte)
  | .skipUnequalByte => modify fun core => core.skipWhen (core.register x != byte)
  | .skipEqual => modify fun core => core.skipWhen (core.register x == core.register y)
  | .loadByte => modify (·.mapRegisters (·.set x byte))
  | .addByte => modify (·.mapRegisters (·.addByte x byte))
  | .copy => modify fun core => core.mapRegisters (·.set x (core.register y))
  | .or => modify (·.combine (· ||| ·) x y)
  | .and => modify (·.combine (· &&& ·) x y)
  | .xor => modify (·.combine (· ^^^ ·) x y)
  | .add => modify (·.mapRegisters (·.add x y))
  | .subtract => modify fun core =>
      core.mapRegisters (·.subtract x (core.register x) (core.register y))
  | .shiftRight => modify fun core =>
      core.mapRegisters (·.shiftRight x (core.shiftSource x y))
  | .subtractFrom => modify fun core =>
      core.mapRegisters (·.subtract x (core.register y) (core.register x))
  | .shiftLeft => modify fun core =>
      core.mapRegisters (·.shiftLeft x (core.shiftSource x y))
  | .skipUnequal => modify fun core => core.skipWhen (core.register x != core.register y)
  | .loadIndex => attempt (·.tryMemory (·.setIndex address))
  | .jumpOffset => attempt fun core => core.jumpTo (core.offsetTarget address x)
  | .random => modify (·.drawRandom x byte)
  | .draw => attempt (·.drawSprite x y instruction.n)
  | .skipDown => attempt (·.skipOnKey x true)
  | .skipUp => attempt (·.skipOnKey x false)
  | .readDelay => attempt (·.readDelay x now)
  | .awaitKey => modify (·.awaitKey x)
  | .setDelay => modify (·.setDelay x now)
  | .setSound => attempt (·.setSound x)
  | .addIndex => attempt (·.addIndex x)
  | .loadGlyph => attempt fun core =>
      core.tryMemory (·.pointAtGlyph (core.register x).toNat core.dialect.masksGlyph)
  | .storeDecimal => attempt fun core =>
      core.tryMemory (·.writeDecimal (core.register x).toNat)
  | .storeRegisters => attempt (·.storeRegisters x)
  | .loadRegisters => attempt (·.loadRegisters x)

end Instruction

end Chip8
