import Chip8.Proofs.Instruction.Effect
import Mathlib
/-!
What an instruction leaves alone.  For every component the instructions that
may change it are listed, and for the registers and the cells the places they
may change.  Registers can coincide, so that the places are lists and not
conditions on single registers.
-/

namespace Chip8

open Numeric (Binary64)
open Registers (AgreeOff flagNumber)

/-- No key is down. -/
def Keypad.AllUp (keypad : Keypad) : Prop :=
  ∀ key : Fin 16, keypad.keys.get key = false

namespace Instruction

variable (instruction : Instruction) (now : Binary64) (core : Core)

/-- An address where the instruction may put a byte. -/
def WritesCell (address : Int) : Prop :=
  (instruction.opcode = .storeDecimal ∧
    core.memory.index ≤ address ∧ address ≤ core.memory.index + 2) ∨
  (instruction.opcode = .storeRegisters ∧
    core.memory.index ≤ address ∧ address ≤ core.memory.index + instruction.x.val)

/-- The registers that the instruction may write. -/
def writes : List (Fin 16) :=
  let x := instruction.x
  match instruction.opcode with
  | .loadByte | .addByte | .copy | .random | .readDelay => [x]
  | .or | .and | .xor => if core.dialect.logicClearsFlag then [x, flagNumber] else [x]
  | .add | .subtract | .shiftRight | .subtractFrom | .shiftLeft => [x, flagNumber]
  | .draw => [flagNumber]
  | .awaitKey => if core.keypad.firstDown? = none then [] else [x]
  | .addIndex => if core.dialect.flagsIndex then [flagNumber] else []
  | .loadRegisters => (List.finRange 16).filter (· ≤ x)
  | _ => []

variable {instruction now core}

theorem agreeOff_nextRegisters :
    AgreeOff (instruction.writes core) (instruction.nextRegisters now core) core.registers := by
  unfold writes nextRegisters
  cases instruction.opcode
  case loadByte | addByte | copy | random | readDelay => exact Registers.agreeOff_set _
  case or | and | xor => exact Registers.agreeOff_combine _ _
  case add | subtract | subtractFrom => exact Registers.agreeOff_setFlag_set _ _
  case shiftRight | shiftLeft => exact Registers.agreeOff_set_setFlag _ _
  case draw => exact Registers.agreeOff_setFlag _
  case awaitKey =>
    simp only
    cases core.keypad.firstDown? with
    | none => exact Registers.agreeOff_refl _ _
    | some key => exact Registers.agreeOff_set _
  case addIndex =>
    simp only
    split
    · exact Registers.agreeOff_setFlag _
    · exact Registers.agreeOff_refl _ _
  case loadRegisters => exact Registers.agreeOff_loadBytes (Memory.length_window _ _)
  all_goals exact Registers.agreeOff_refl _ _

/-- Apart from the first operand and the flag only a load of registers writes any. -/
theorem not_mem_writes_of_ne
    {number : Fin 16} (notX : number ≠ instruction.x) (notFlag : number ≠ flagNumber)
    (notLoaded : ¬ (instruction.opcode = .loadRegisters ∧ number ≤ instruction.x)) :
    number ∉ instruction.writes core := by
  unfold writes
  cases opcode : instruction.opcode
  case loadRegisters =>
    have behind : ¬ number ≤ instruction.x := fun before => notLoaded ⟨opcode, before⟩
    simpa using behind
  case or | and | xor =>
    simp only
    split <;> simp [notX, notFlag]
  case awaitKey =>
    simp only
    split <;> simp [notX]
  case addIndex =>
    simp only
    split <;> simp [notFlag]
  all_goals simp [notX, notFlag]

/-- The instructions that write their first operand. -/
def writesX : List Opcode :=
  [.loadByte, .addByte, .copy, .or, .and, .xor, .add, .subtract, .shiftRight, .subtractFrom,
    .shiftLeft, .random, .readDelay, .loadRegisters]

theorem x_not_mem_writes
    (notFlag : instruction.x ≠ flagNumber) (other : instruction.opcode ∉ writesX)
    (unanswered : ¬ (instruction.opcode = .awaitKey ∧ ¬ core.keypad.AllUp)) :
    instruction.x ∉ instruction.writes core := by
  unfold writes
  cases opcode : instruction.opcode <;> rw [opcode] at other
  case awaitKey =>
    have up : core.keypad.AllUp := by
      by_contra down
      exact unanswered ⟨opcode, down⟩
    simp only [if_pos (Keypad.firstDown?_eq_none_iff.mpr up)]
    exact List.not_mem_nil
  case addIndex =>
    simp only
    split <;> simp [notFlag]
  case draw => simp [notFlag]
  all_goals first
    | exact absurd (by decide) other
    | exact List.not_mem_nil

/-- The instructions that write the flag whatever the dialect. -/
def writesFlag : List Opcode :=
  [.add, .subtract, .shiftRight, .subtractFrom, .shiftLeft, .draw]

theorem flag_not_mem_writes
    (notX : instruction.x ≠ flagNumber) (other : instruction.opcode ∉ writesFlag)
    (sum : ¬ (instruction.opcode = .addIndex ∧ core.dialect.flagsIndex = true))
    (logic : ¬ (instruction.opcode ∈ [Opcode.or, .and, .xor] ∧
      core.dialect.logicClearsFlag = true)) :
    flagNumber ∉ instruction.writes core := by
  unfold writes
  cases opcode : instruction.opcode <;> rw [opcode] at other sum logic
  case or | and | xor =>
    have keeps : core.dialect.logicClearsFlag = false := by simpa using logic
    simp [keeps, Ne.symm notX]
  case awaitKey =>
    simp only
    split <;> simp [Ne.symm notX]
  case addIndex =>
    have keeps : core.dialect.flagsIndex = false := by simpa using sum
    simp [keeps]
  case loadRegisters =>
    have small := instruction.x.isLt
    have below : instruction.x.val ≠ 15 := fun last => notX (Fin.ext last)
    simp only [List.mem_filter, List.mem_finRange, decide_eq_true_eq, true_and, Fin.le_def,
      flagNumber]
    omega
  all_goals first
    | exact absurd (by decide) other
    | simp [Ne.symm notX]

theorem byteAt_nextRam
    (nonneg : 0 ≤ core.memory.index) (accepted : instruction.fault? now core = none)
    {address : Int} (addressNonneg : 0 ≤ address) (free : ¬ instruction.WritesCell core address) :
    (instruction.nextRam core).byteAt address = core.memory.ram.byteAt address := by
  unfold WritesCell at free
  unfold nextRam
  unfold fault? at accepted
  cases opcode : instruction.opcode
  case storeDecimal =>
    simp only [opcode, Memory.windowFault?_eq_none_iff] at accepted
    have three : (Memory.decimalBytes (instruction.valueX core)).length = 3 := rfl
    rw [Ram.byteAt_overwriteAt _ nonneg (by rw [three]; exact accepted) addressNonneg, if_neg]
    rw [three]
    intro covered
    exact free (.inl ⟨opcode, by omega⟩)
  case storeRegisters =>
    simp only [opcode, Memory.windowFault?_eq_none_iff] at accepted
    have length := core.registers.length_dump instruction.x
    rw [Ram.byteAt_overwriteAt _ nonneg (by rw [length]; exact accepted) addressNonneg, if_neg]
    rw [length]
    intro covered
    exact free (.inr ⟨opcode, by omega⟩)
  all_goals rfl

theorem nextRam_of_not_mem
    (other : instruction.opcode ∉ [Opcode.storeDecimal, .storeRegisters]) :
    instruction.nextRam core = core.memory.ram := by
  unfold nextRam
  split <;> simp_all

theorem nextDisplay_of_not_mem (other : instruction.opcode ∉ [Opcode.clear, .draw]) :
    instruction.nextDisplay core = core.display := by
  unfold nextDisplay
  split <;> simp_all

theorem nextRedraw_iff (unmarked : core.redraw = false) :
    instruction.nextRedraw core = true ↔ instruction.opcode ∈ [Opcode.clear, .draw] := by
  unfold nextRedraw
  split <;> simp_all

theorem nextStack_of_not_mem (other : instruction.opcode ∉ [Opcode.call, .ret]) :
    instruction.nextStack core = core.stack := by
  unfold nextStack
  split <;> simp_all

theorem nextDelay_of_not_mem (other : instruction.opcode ∉ [Opcode.readDelay, .setDelay]) :
    instruction.nextDelay now core = core.delay := by
  unfold nextDelay
  split <;> simp_all

theorem nextRunState_of_not
    (other : ¬ (instruction.opcode = .awaitKey ∧ core.keypad.AllUp)) :
    instruction.nextRunState core = core.runState := by
  unfold nextRunState
  split
  next waits =>
    refine if_neg fun none => other ⟨waits, ?_⟩
    exact Keypad.firstDown?_eq_none_iff.mp none
  next => rfl

theorem nextIndex_of_not
    (other : instruction.opcode ∉ [Opcode.loadIndex, .addIndex, .loadGlyph])
    (transfer : ¬ (instruction.opcode ∈ [Opcode.storeRegisters, .loadRegisters] ∧
      core.dialect.movesIndex = true)) :
    instruction.nextIndex core = core.memory.index := by
  unfold nextIndex
  split <;> simp_all

/-- An instruction that neither jumps, skips nor waits leaves the program counter alone. -/
theorem nextCounter_of_not
    (other : instruction.opcode ∉ [Opcode.jump, .call, .ret, .jumpOffset])
    (passed : instruction.skips core = false)
    (answered : ¬ (instruction.opcode = .awaitKey ∧ core.keypad.AllUp)) :
    instruction.nextCounter core = core.memory.programCounter := by
  unfold nextCounter
  split
  case h_5 waits =>
    refine if_neg fun none => answered ⟨waits, ?_⟩
    exact Keypad.firstDown?_eq_none_iff.mp none
  all_goals simp_all

theorem nextCounter_of_skips (skips : instruction.skips core = true) :
    instruction.nextCounter core = core.memory.programCounter + 2 := by
  unfold nextCounter
  cases opcode : instruction.opcode
  all_goals first
    | exact if_pos skips
    | simp only [Instruction.skips, opcode, Bool.false_eq_true] at skips

end Instruction

end Chip8
