import Chip8.Proofs.Instruction.Footprint
import Chip8.Proofs.Machine.ClockedRun
import Chip8.Proofs.Machine.FaultLaw
import Chip8.Proofs.Registers.Arithmetic
import Mathlib
/-!
The arithmetic instructions.  The registers after a cycle are told from those
before it, since all operands are read before any register is written.  The
flag is part of the result, unless the result itself is put in its register.
-/

namespace Chip8

open Numeric (Binary64)
open Registers (flagNumber)

namespace Core

/-- The value of a register as a number. -/
def value (core : Core) (number : Fin 16) : Int :=
  core.registers.value number

end Core

namespace Opcode

def arithmetic : List Opcode :=
  [.addByte, .or, .and, .xor, .add, .subtract, .shiftRight, .subtractFrom, .shiftLeft, .addIndex]

/-- How an instruction joins the bits of two registers. -/
def join? : Opcode → Option (UInt8 → UInt8 → UInt8)
  | .or => some (· ||| ·)
  | .and => some (· &&& ·)
  | .xor => some (· ^^^ ·)
  | _ => none

end Opcode

namespace Instruction

/-- What is shifted, in the register that the dialect names. -/
def shifted (instruction : Instruction) (core : Core) : Int :=
  core.value (if core.dialect.shiftsY then instruction.y else instruction.x)

/-- A sum in the index register that the dialect refuses. -/
def PassesMemory (instruction : Instruction) (core : Core) : Prop :=
  instruction.opcode = .addIndex ∧ core.dialect.flagsIndex = false ∧
    0x1000 ≤ core.memory.index + core.value instruction.x

/-- What an arithmetic instruction makes of the registers and the index register. -/
structure Arithmetic (instruction : Instruction) (before after : Core) : Prop where
  sum : instruction.opcode = .add → instruction.x ≠ flagNumber →
    256 * after.value flagNumber + after.value instruction.x =
      before.value instruction.x + before.value instruction.y
  carry : instruction.opcode = .add →
    after.value flagNumber =
      if 255 < before.value instruction.x + before.value instruction.y then 1 else 0
  difference : instruction.opcode = .subtract → instruction.x ≠ flagNumber →
    after.value instruction.x - 256 * (1 - after.value flagNumber) =
      before.value instruction.x - before.value instruction.y
  unborrowed : instruction.opcode = .subtract →
    after.value flagNumber =
      if before.value instruction.y ≤ before.value instruction.x then 1 else 0
  differenceFrom : instruction.opcode = .subtractFrom → instruction.x ≠ flagNumber →
    after.value instruction.x - 256 * (1 - after.value flagNumber) =
      before.value instruction.y - before.value instruction.x
  unborrowedFrom : instruction.opcode = .subtractFrom →
    after.value flagNumber =
      if before.value instruction.x ≤ before.value instruction.y then 1 else 0
  half : instruction.opcode = .shiftRight → instruction.x ≠ flagNumber →
    2 * after.value instruction.x + after.value flagNumber = instruction.shifted before ∧
      (after.value flagNumber = 0 ∨ after.value flagNumber = 1)
  /-- A shift of the flag register leaves the shifted value there. -/
  halved : instruction.opcode = .shiftRight →
    after.value instruction.x = instruction.shifted before / 2
  double : instruction.opcode = .shiftLeft → instruction.x ≠ flagNumber →
    256 * after.value flagNumber + after.value instruction.x = 2 * instruction.shifted before ∧
      (after.value flagNumber = 0 ∨ after.value flagNumber = 1)
  doubled : instruction.opcode = .shiftLeft →
    after.value instruction.x = 2 * instruction.shifted before % 256
  wrapped : instruction.opcode = .addByte →
    after.value instruction.x = (before.value instruction.x + instruction.byte.toNat) % 256
  wrappedFlag : instruction.opcode = .addByte → instruction.x ≠ flagNumber →
    after.value flagNumber = before.value flagNumber
  joined : ∀ join, instruction.opcode.join? = some join →
    instruction.x ≠ flagNumber ∨ before.dialect.logicClearsFlag = false →
    after.register instruction.x =
      join (before.register instruction.x) (before.register instruction.y)
  /-- Some dialects clear the flag even if it has just taken the result. -/
  cleared : ∀ join, instruction.opcode.join? = some join →
    before.dialect.logicClearsFlag = true → after.value flagNumber = 0
  joinedFlag : ∀ join, instruction.opcode.join? = some join →
    before.dialect.logicClearsFlag = false → instruction.x ≠ flagNumber →
    after.value flagNumber = before.value flagNumber
  indexSum : instruction.opcode = .addIndex → before.dialect.flagsIndex = true →
    0x1000 * after.value flagNumber + after.memory.index =
        before.memory.index + before.value instruction.x ∧
      0 ≤ after.memory.index ∧ after.memory.index < 0x1000
  indexChecked : instruction.opcode = .addIndex → before.dialect.flagsIndex = false →
    after.memory.index = before.memory.index + before.value instruction.x ∧
      after.value flagNumber = before.value flagNumber
  others : ∀ number, number ∉ instruction.writes before → after.value number = before.value number
  index : instruction.opcode ∈ Opcode.arithmetic → instruction.opcode ≠ .addIndex →
    after.memory.index = before.memory.index

variable {instruction : Instruction} {now : Binary64} {core : Core}

/-- A register holds after a cycle what the operation of the instruction puts there. -/
theorem value_completed
    {operation : Opcode} (opcode : instruction.opcode = operation) (number : Fin 16) :
    (core.completed instruction now).value number =
      ({ instruction with opcode := operation }.nextRegisters now core.fetched).value number := by
  subst opcode
  rfl

theorem nextRegisters_of_join?
    {join : UInt8 → UInt8 → UInt8} (joins : instruction.opcode.join? = some join) :
    instruction.nextRegisters now core =
      core.registers.combine join instruction.x instruction.y core.dialect.logicClearsFlag := by
  cases opcode : instruction.opcode <;> rw [opcode] at joins <;> cases joins
  all_goals simp only [nextRegisters, opcode]

theorem indexSum_completed
    (opcode : instruction.opcode = .addIndex) (flags : core.dialect.flagsIndex = true)
    (nonneg : 0 ≤ core.memory.index) (small : core.memory.index < 0x1000) :
    0x1000 * (core.completed instruction now).value flagNumber +
          (core.completed instruction now).memory.index =
        core.memory.index + core.value instruction.x ∧
      0 ≤ (core.completed instruction now).memory.index ∧
      (core.completed instruction now).memory.index < 0x1000 := by
  have raised : { instruction with opcode := .addIndex }.nextRegisters now core.fetched =
      core.registers.setFlag
        (decide (0x1000 ≤ core.memory.index + core.value instruction.x)) := if_pos flags
  have flag : (core.completed instruction now).value flagNumber =
      if 0x1000 ≤ core.memory.index + core.value instruction.x then 1 else 0 := by
    rw [value_completed opcode, raised, Registers.value_setFlag]
    simp only [decide_eq_true_eq]
  have index : (core.completed instruction now).memory.index =
      (core.memory.index + core.value instruction.x) % 0x1000 := by
    have moved : (core.completed instruction now).memory.index =
        instruction.nextIndex core.fetched := rfl
    simp only [moved, nextIndex, opcode, Core.fetched, flags]
    rfl
  have operand : 0 ≤ core.value instruction.x ∧ core.value instruction.x < 256 :=
    core.registers.value_mem_range instruction.x
  rw [flag, index]
  split <;> omega

/-- An instruction that is carried out computes what it is named for. -/
theorem arithmetic_completed
    (nonneg : 0 ≤ core.memory.index) (small : core.memory.index < 0x1000) :
    instruction.Arithmetic core (core.completed instruction now) := by
  have registers : (core.completed instruction now).registers =
      instruction.nextRegisters now core.fetched := rfl
  have index : (core.completed instruction now).memory.index =
      instruction.nextIndex core.fetched := rfl
  have kept {number : Fin 16} (outside : number ∉ instruction.writes core) :
      (core.completed instruction now).value number = core.value number :=
    congrArg (fun value => (value.toNat : Int)) (agreeOff_nextRegisters number outside)
  constructor
  case sum =>
    intro opcode distinct
    rw [value_completed opcode, value_completed opcode]
    exact core.registers.value_add distinct
  case carry =>
    intro opcode
    rw [value_completed opcode]
    exact core.registers.flag_add
  case difference =>
    intro opcode distinct
    rw [value_completed opcode, value_completed opcode]
    exact core.registers.value_subtract distinct _ _
  case unborrowed =>
    intro opcode
    rw [value_completed opcode]
    exact core.registers.flag_subtract _ _
  case differenceFrom =>
    intro opcode distinct
    rw [value_completed opcode, value_completed opcode]
    exact core.registers.value_subtract distinct _ _
  case unborrowedFrom =>
    intro opcode
    rw [value_completed opcode]
    exact core.registers.flag_subtract _ _
  case half =>
    intro opcode distinct
    rw [value_completed opcode, value_completed opcode]
    exact core.registers.half_shiftRight distinct _
  case halved =>
    intro opcode
    rw [value_completed opcode]
    exact core.registers.value_shiftRight _
  case double =>
    intro opcode distinct
    rw [value_completed opcode, value_completed opcode]
    exact core.registers.double_shiftLeft distinct _
  case doubled =>
    intro opcode
    rw [value_completed opcode]
    exact core.registers.value_shiftLeft _
  case wrapped =>
    intro opcode
    rw [value_completed opcode]
    exact core.registers.value_addByte _
  case wrappedFlag =>
    intro opcode distinct
    apply kept
    simp only [writes, opcode, List.mem_singleton]
    exact Ne.symm distinct
  case joined =>
    intro join joins free
    rw [Core.register, registers, nextRegisters_of_join? joins]
    apply Registers.get_combine
    exact free
  case cleared =>
    intro join joins clears
    have clearsFetched : core.fetched.dialect.logicClearsFlag = true := clears
    rw [Core.value, registers, nextRegisters_of_join? joins, clearsFetched]
    apply Registers.value_combine_flag
  case joinedFlag =>
    intro join joins keeps distinct
    have writes : instruction.writes core = [instruction.x] := by
      cases opcode : instruction.opcode <;> rw [opcode] at joins <;> cases joins
      all_goals simp only [writes, opcode, keeps, Bool.false_eq_true, if_false]
    apply kept
    rw [writes, List.mem_singleton]
    exact Ne.symm distinct
  case indexSum =>
    intro opcode flags
    exact indexSum_completed opcode flags nonneg small
  case indexChecked =>
    intro opcode refuses
    constructor
    · simp only [index, nextIndex, opcode, Core.fetched, refuses]
      rfl
    · apply kept
      simp [writes, opcode, refuses]
  case others => exact fun number outside => kept outside
  case index =>
    intro member other
    have plain : instruction.opcode ∉ [Opcode.loadIndex, .addIndex, .loadGlyph] ∧
        instruction.opcode ∉ [Opcode.storeRegisters, .loadRegisters] := by
      revert member other
      cases instruction.opcode <;> decide
    rw [index]
    apply nextIndex_of_not plain.1
    rintro ⟨transfer, -⟩
    exact plain.2 transfer

/-- Only a sum in the index register can be refused. -/
theorem fault?_of_mem_arithmetic
    (member : instruction.opcode ∈ Opcode.arithmetic) (now : Binary64) (core : Core) :
    (¬ instruction.PassesMemory core → instruction.fault? now core = none) ∧
      (instruction.PassesMemory core → instruction.fault? now core =
        some (.indexOutside (core.memory.index + core.value instruction.x))) := by
  unfold PassesMemory
  cases opcode : instruction.opcode
  case addIndex =>
    have sum : core.value instruction.x = (instruction.valueX core).toNat := rfl
    simp only [fault?, opcode, sum, true_and]
    cases core.dialect.flagsIndex with
    | true => simp
    | false =>
        constructor
        · intro inside
          have small : core.memory.index + (instruction.valueX core).toNat < 4096 := by
            by_contra beyond
            exact inside ⟨rfl, Int.not_lt.mp beyond⟩
          simp [small]
        · rintro ⟨-, beyond⟩
          simp [Int.not_lt.mpr beyond]
  case addByte | or | and | xor | add | subtract | shiftRight | subtractFrom | shiftLeft =>
    simp [fault?, opcode]
  all_goals
    rw [opcode] at member
    exact absurd member (by decide)

end Instruction

namespace Machine

variable {machine : Machine} {readings : Readings} {instruction : Instruction}

/-- How a machine carries out an arithmetic instruction. -/
structure ArithmeticLaw (machine : Machine) (readings : Readings) (instruction : Instruction) :
    Prop where
  computes : ¬ instruction.PassesMemory machine.core →
    instruction.Arithmetic machine.core (machine.after (.step readings)).core
  succeeds : ¬ instruction.PassesMemory machine.core → machine.core.ClockDefined readings →
    ∃ snapshot, machine.step readings = .ok snapshot (machine.after (.step readings))
  refuses : instruction.PassesMemory machine.core →
    ∃ fault, machine.Raises readings fault ∧ fault.kind = .addressRange ∧
      (machine.after (.step readings)).core.registers = machine.core.registers ∧
      (machine.after (.step readings)).core.memory.index = machine.core.memory.index

/--
Arithmetic loses no bit, whatever the registers hold and even if the flag
register is an operand.
-/
theorem arithmetic_lossless
    (wellFormed : machine.core.WellFormed) (reaches : machine.core.Reaches instruction)
    (member : instruction.opcode ∈ Opcode.arithmetic) (readings : Readings) :
    machine.ArithmeticLaw readings instruction := by
  obtain ⟨accepted, refused⟩ :=
    Instruction.fault?_of_mem_arithmetic member readings.execution machine.core.fetched
  constructor
  case computes =>
    intro inside
    rw [after_step_of_accepted wellFormed reaches (accepted inside)]
    exact Instruction.arithmetic_completed wellFormed.indexNonneg wellFormed.indexSmall
  case succeeds =>
    intro inside clock
    rw [after_step_of_accepted wellFormed reaches (accepted inside)]
    exact step_of_accepted wellFormed clock reaches (accepted inside)
  case refuses =>
    intro beyond
    have stepped : machine.step readings =
        .error (.indexOutside (machine.core.memory.index + machine.core.value instruction.x))
          ⟨instruction.residue machine.core.fetched, machine.cycleCount⟩ := by
      rw [step_ready reaches.ready, carryOut_fetched readings wellFormed.counterNonneg
        wellFormed.indexNonneg reaches.toFetches, reaches.decoded]
      simp only [refused beyond]
      rfl
    obtain ⟨stack, residue⟩ := instruction.residue_eq machine.core.fetched
    rw [after_of_step stepped, stateOf, residue]
    exact ⟨_, ⟨_, stepped⟩, rfl, rfl, rfl⟩

/-- The flag register is added to itself, and keeps the carry only. -/
theorem arithmetic_lossless_flagTwice :
    let machine := unloaded.run [.load [0x6F, 0xFF, 0x8F, 0xF4], .step (.still .zero)]
    let instruction := machine.core.nextInstruction .add
    machine.core.WellFormed ∧ machine.core.Reaches instruction ∧
      instruction.opcode ∈ Opcode.arithmetic ∧ instruction.x = flagNumber ∧
      machine.ArithmeticLaw (.still .zero) instruction ∧
      (machine.after (.step (.still .zero))).core.value flagNumber = 1 := by
  intro machine instruction
  obtain ⟨ready, inside, found, flag, carry⟩ :
      machine.core.runState ≠ .awaitingKey ∧ machine.core.memory.programCounter ≤ 0xE9E ∧
        Instruction.decode machine.core.nextWord = .ok instruction ∧
        instruction.x = flagNumber ∧
        (machine.after (.step (.still .zero))).core.value flagNumber = 1 := by
    decide +kernel
  have wellFormed : machine.core.WellFormed :=
    wellFormed_of_reachable (reachable_run_unloaded _)
  have reaches : machine.core.Reaches instruction :=
    ⟨Core.fetches_of_le ready inside, found⟩
  have member : instruction.opcode ∈ Opcode.arithmetic := by decide
  exact ⟨wellFormed, reaches, member, flag,
    arithmetic_lossless wellFormed reaches member (.still .zero), carry⟩

end Machine

end Chip8
