import Chip8.Proofs.Instruction.Pattern
import Chip8.Proofs.Machine.Clock
import Chip8.Proofs.Machine.Invariant
import Mathlib
/-!
Why a fetched word is not carried out.  There are twelve causes, each of them a
condition on the word and the machine, and no two hold at once.  Under the
invariant nothing else can go wrong: the return addresses are valid, and the
cells, registers and bytes that an instruction uses exist.
-/

namespace Chip8

open Numeric (Binary64)

/-- A cause for which a word is not carried out. -/
inductive RefusalCause where
  | noInstruction
  | emptyStack
  | fullStack
  | jumpTarget
  | offsetTarget
  | keyNumber
  | shortTone
  | indexSum
  | glyphNumber
  | spriteWindow
  | decimalWindow
  | registerWindow
  deriving DecidableEq, Repr

/-- The value of the register that the second digit of a word names. -/
def Core.operandX (core : Core) (word : Int) : Nat :=
  (core.register (Word.nibble word 2)).toNat

/-- The target of a jump with an offset, which is never more than sixteen bits long. -/
def Core.offsetSum (core : Core) (word : Int) : Int :=
  let number := if core.dialect.jumpsByX then Word.nibble word 2 else Registers.offsetNumber
  word % 0x1000 + (core.register number).toNat

namespace RefusalCause

/-- The kind of the fault that a cause leads to. -/
def kind : RefusalCause → FaultKind
  | noInstruction => .unsupportedWord
  | emptyStack => .stackUnderflow
  | fullStack => .stackOverflow
  | keyNumber => .index
  | shortTone => .value
  | jumpTarget | offsetTarget | indexSum | glyphNumber | spriteWindow | decimalWindow
  | registerWindow => .addressRange

variable (core : Core) (word : Int)

/-- The condition on a word and the machine under which there is a cause. -/
def Holds : RefusalCause → Prop
  | noInstruction => ∀ opcode : Opcode, ¬ opcode.Matches word
  | emptyStack => Opcode.ret.Matches word ∧ core.stack.depth = 0
  | fullStack => Opcode.call.Matches word ∧ core.stack.depth = 16
  | jumpTarget =>
      (Opcode.jump.Matches word ∨ Opcode.call.Matches word ∧ core.stack.depth < 16) ∧
        ¬ (0x200 ≤ word % 0x1000 ∧ word % 0x1000 ≤ 0xEA0)
  | offsetTarget =>
      Opcode.jumpOffset.Matches word ∧
        ¬ (0x200 ≤ core.offsetSum word ∧ core.offsetSum word ≤ 0xEA0)
  | keyNumber =>
      (Opcode.skipDown.Matches word ∨ Opcode.skipUp.Matches word) ∧ 15 < core.operandX word
  | shortTone => Opcode.setSound.Matches word ∧ core.operandX word < 2
  | indexSum =>
      Opcode.addIndex.Matches word ∧ core.dialect.flagsIndex = false ∧
        0xFFF < core.memory.index + core.operandX word
  | glyphNumber =>
      Opcode.loadGlyph.Matches word ∧ core.dialect.masksGlyph = false ∧ 15 < core.operandX word
  | spriteWindow =>
      Opcode.draw.Matches word ∧ 0x1000 < core.memory.index + (Word.nibble word 0).val
  | decimalWindow => Opcode.storeDecimal.Matches word ∧ 0x1000 < core.memory.index + 3
  | registerWindow =>
      (Opcode.storeRegisters.Matches word ∨ Opcode.loadRegisters.Matches word) ∧
        0x1000 < core.memory.index + ((Word.nibble word 2).val + 1 : Nat)

/-- The fault that a cause leads to; a full stack names the address that was to be put on it. -/
def fault : RefusalCause → Fault
  | noInstruction => .unsupportedWord word
  | emptyStack => .stackUnderflow
  | fullStack => .stackOverflow (core.memory.programCounter + 2)
  | jumpTarget => .jumpOutside (word % 0x1000)
  | offsetTarget => .jumpOutside (core.offsetSum word)
  | keyNumber => .keyOutside (core.operandX word)
  | shortTone => .soundTooShort (core.operandX word)
  | indexSum => .indexOutside (core.memory.index + core.operandX word)
  | glyphNumber => .noGlyph (core.operandX word)
  | spriteWindow => .windowOutside (Word.nibble word 0).val core.memory.index
  | decimalWindow => .windowOutside 3 core.memory.index
  | registerWindow => .windowOutside ((Word.nibble word 2).val + 1 : Nat) core.memory.index

theorem kind_fault (cause : RefusalCause) : (cause.fault core word).kind = cause.kind := by
  cases cause <;> rfl

/-- All faults but those of a key number and of a short tone are faults of the machine. -/
theorem specialises_machine_iff (cause : RefusalCause) :
    cause.kind.specialises .machine = true ↔ cause ≠ keyNumber ∧ cause ≠ shortTone := by
  cases cause <;> decide

variable {core : Core} {word : Int}

theorem Holds.noInstruction_or_matches
    {cause : RefusalCause} (holds : cause.Holds core word) :
    cause = .noInstruction ∨ ∃ opcode : Opcode, opcode.Matches word := by
  cases cause with
  | noInstruction => exact .inl rfl
  | jumpTarget =>
      rcases holds.1 with jump | ⟨call, -⟩
      · exact .inr ⟨_, jump⟩
      · exact .inr ⟨_, call⟩
  | keyNumber | registerWindow =>
      rcases holds.1 with matched | matched
      all_goals exact .inr ⟨_, matched⟩
  | _ => exact .inr ⟨_, holds.1⟩

end RefusalCause

namespace Instruction

/-- The cause for which a machine refuses an instruction, if any. -/
def cause? (instruction : Instruction) (core : Core) : Option RefusalCause :=
  let value := (instruction.valueX core).toNat
  let index := core.memory.index
  match instruction.opcode with
  | .ret => if core.stack.depth = 0 then some .emptyStack else none
  | .jump => if Memory.InProgram instruction.address then none else some .jumpTarget
  | .call =>
      if core.stack.depth < 16 then
        if Memory.InProgram instruction.address then none else some .jumpTarget
      else some .fullStack
  | .jumpOffset =>
      if Memory.InProgram (core.offsetSum instruction.word) then none else some .offsetTarget
  | .skipDown | .skipUp => if value < 16 then none else some .keyNumber
  | .setSound => if value < 2 then some .shortTone else none
  | .addIndex =>
      if core.dialect.flagsIndex then none
      else if index + value < 0x1000 then none
      else some .indexSum
  | .loadGlyph =>
      if core.dialect.masksGlyph then none
      else if value < 16 then none
      else some .glyphNumber
  | .draw => if index + instruction.n.val ≤ 0x1000 then none else some .spriteWindow
  | .storeDecimal => if index + 3 ≤ 0x1000 then none else some .decimalWindow
  | .storeRegisters | .loadRegisters =>
      if index + (instruction.x.val + 1 : Nat) ≤ 0x1000 then none else some .registerWindow
  | _ => none

variable {instruction : Instruction} {core : Core} {word : Int}

/-- A cause that holds is the one for which the instruction is refused. -/
theorem cause?_of_holds
    (decoded : decode word = .ok instruction) {cause : RefusalCause}
    (holds : cause.Holds core word) : instruction.cause? core = some cause := by
  obtain ⟨matched, same⟩ := decode_eq_ok_iff.mp decoded
  have address := address_of_decode decoded
  obtain ⟨_, opcode, x, y, n⟩ := instruction
  cases same
  have only {other : Opcode} (matches' : other.Matches word) : opcode = other :=
    Opcode.eq_of_matches matched matches'
  cases cause with
  | noInstruction => exact absurd matched (holds opcode)
  | emptyStack =>
      obtain ⟨ret, empty⟩ := holds
      cases only ret
      exact if_pos empty
  | fullStack =>
      obtain ⟨call, full⟩ := holds
      cases only call
      exact if_neg (by omega)
  | jumpTarget =>
      obtain ⟨jump | ⟨call, room⟩, outside⟩ := holds
      · cases only jump
        exact if_neg (by rw [address]; exact outside)
      · cases only call
        exact (if_pos room).trans (if_neg (by rw [address]; exact outside))
  | offsetTarget =>
      obtain ⟨jump, outside⟩ := holds
      cases only jump
      exact if_neg outside
  | keyNumber =>
      obtain ⟨down | up, outside⟩ := holds
      · cases only down
        exact if_neg (Nat.not_lt.mpr outside)
      · cases only up
        exact if_neg (Nat.not_lt.mpr outside)
  | shortTone =>
      obtain ⟨tone, short⟩ := holds
      cases only tone
      exact if_pos short
  | indexSum =>
      obtain ⟨sum, refuses, outside⟩ := holds
      cases only sum
      exact (if_neg (by simp [refuses])).trans (if_neg (Int.not_lt.mpr outside))
  | glyphNumber =>
      obtain ⟨glyph, refuses, outside⟩ := holds
      cases only glyph
      exact (if_neg (by simp [refuses])).trans (if_neg (Nat.not_lt.mpr outside))
  | spriteWindow =>
      obtain ⟨sprite, outside⟩ := holds
      cases only sprite
      exact if_neg (Int.not_le.mpr outside)
  | decimalWindow =>
      obtain ⟨decimal, outside⟩ := holds
      cases only decimal
      exact if_neg (Int.not_le.mpr outside)
  | registerWindow =>
      obtain ⟨store | load, outside⟩ := holds
      · cases only store
        exact if_neg (Int.not_le.mpr outside)
      · cases only load
        exact if_neg (Int.not_le.mpr outside)

/-- A cause for which an instruction is refused holds. -/
theorem holds_of_cause?
    (shallow : core.stack.depth ≤ CallStack.limit)
    (decoded : decode word = .ok instruction) {cause : RefusalCause}
    (refused : instruction.cause? core = some cause) : cause.Holds core word := by
  obtain ⟨matched, same⟩ := decode_eq_ok_iff.mp decoded
  have address := address_of_decode decoded
  obtain ⟨_, opcode, x, y, n⟩ := instruction
  cases same
  unfold cause? at refused
  -- most instructions are never refused
  cases opcode <;> simp only [Option.ite_none_left_eq_some, Option.ite_none_right_eq_some,
    Option.some.injEq, reduceCtorEq] at refused
  case ret =>
    obtain ⟨empty, rfl⟩ := refused
    exact ⟨matched, empty⟩
  case jump =>
    obtain ⟨outside, rfl⟩ := refused
    rw [address] at outside
    exact ⟨.inl matched, outside⟩
  case call =>
    by_cases room : core.stack.depth < 16
    · rw [if_pos room, address, Option.ite_none_left_eq_some] at refused
      cases refused.2
      exact ⟨.inr ⟨matched, room⟩, refused.1⟩
    · rw [if_neg room] at refused
      cases refused
      have full : core.stack.depth ≤ 16 := shallow
      exact ⟨matched, by omega⟩
  case jumpOffset =>
    obtain ⟨outside, rfl⟩ := refused
    exact ⟨matched, outside⟩
  case skipDown =>
    obtain ⟨outside, rfl⟩ := refused
    exact ⟨.inl matched, Nat.not_lt.mp outside⟩
  case skipUp =>
    obtain ⟨outside, rfl⟩ := refused
    exact ⟨.inr matched, Nat.not_lt.mp outside⟩
  case setSound =>
    obtain ⟨short, rfl⟩ := refused
    exact ⟨matched, short⟩
  case addIndex =>
    obtain ⟨refuses, outside, rfl⟩ := refused
    exact ⟨matched, Bool.eq_false_iff.mpr refuses, Int.not_lt.mp outside⟩
  case loadGlyph =>
    obtain ⟨refuses, outside, rfl⟩ := refused
    exact ⟨matched, Bool.eq_false_iff.mpr refuses, Nat.not_lt.mp outside⟩
  case draw =>
    obtain ⟨outside, rfl⟩ := refused
    exact ⟨matched, Int.not_le.mp outside⟩
  case storeDecimal =>
    obtain ⟨outside, rfl⟩ := refused
    exact ⟨matched, Int.not_le.mp outside⟩
  case storeRegisters =>
    obtain ⟨outside, rfl⟩ := refused
    exact ⟨.inl matched, Int.not_le.mp outside⟩
  case loadRegisters =>
    obtain ⟨outside, rfl⟩ := refused
    exact ⟨.inr matched, Int.not_le.mp outside⟩

/-- No two causes hold at once. -/
theorem cause_unique
    {first second : RefusalCause} (firstHolds : first.Holds core word)
    (secondHolds : second.Holds core word) : first = second := by
  cases decoded : decode word with
  | ok instruction =>
      have same := (cause?_of_holds decoded firstHolds).symm.trans
        (cause?_of_holds decoded secondHolds)
      exact Option.some.inj same
  | error fault =>
      have unmatched := (decode_eq_error_iff.mp decoded).1
      have only {cause : RefusalCause} (holds : cause.Holds core word) :
          cause = .noInstruction := by
        rcases holds.noInstruction_or_matches with same | ⟨opcode, matched⟩
        · exact same
        · exact absurd matched (unmatched opcode)
      rw [only firstHolds, only secondHolds]

theorem offsetTarget_fetched (decoded : decode word = .ok instruction) :
    core.fetched.offsetTarget instruction.address instruction.x = core.offsetSum word := by
  have range := instruction.address_mem_range
  obtain ⟨-, same⟩ := decode_eq_ok_iff.mp decoded
  have named : instruction.x = Word.nibble word 2 := by rw [same]
  have small := (core.register
    (if core.dialect.jumpsByX then Word.nibble word 2 else Registers.offsetNumber)).toNat_lt
  have target (x : Fin 16) : core.fetched.offsetTarget instruction.address x =
      (instruction.address + (core.register
        (if core.dialect.jumpsByX then x else Registers.offsetNumber)).toNat) % 0x10000 := rfl
  rw [target, named, Core.offsetSum, ← address_of_decode decoded]
  omega

/--
The faults of an instruction are those of its causes.  Only the reading of the
delay timer depends on the clock.
-/
theorem fault?_fetched
    {now : Binary64} (wellFormed : core.WellFormed)
    (timed : instruction.opcode = .readDelay → DelayTimer.TicksDefined core.delay.reference now)
    (decoded : decode word = .ok instruction) :
    instruction.fault? now core.fetched = (instruction.cause? core).map (·.fault core word) := by
  obtain ⟨-, same⟩ := decode_eq_ok_iff.mp decoded
  have address := address_of_decode decoded
  obtain ⟨_, opcode, x, y, n⟩ := instruction
  cases same
  unfold fault? cause?
  cases opcode
  case ret =>
    obtain ⟨dialect, memory, registers, ⟨frames⟩, delay, sound, keypad, display, runState, redraw,
      random⟩ := core
    cases frames with
    | nil => rfl
    | cons target rest =>
        have range := wellFormed.frames target List.mem_cons_self
        exact Memory.jumpFault?_eq_none_iff.mpr ⟨le_trans (by decide) range.1, range.2⟩
  case jump | call =>
    simp only [apply_ite (Option.map _), Option.map_none, Option.map_some, Memory.jumpFault?,
      address]
    rfl
  case jumpOffset =>
    simp only [apply_ite (Option.map _), Option.map_none, Option.map_some, Memory.jumpFault?,
      offsetTarget_fetched decoded]
    rfl
  case readDelay =>
    obtain ⟨present, loaded, -⟩ := DelayTimer.load_of_ticksDefined (timed rfl)
    have unmoved : core.fetched.delay = core.delay := rfl
    simp only [unmoved, loaded]
    rfl
  case skipDown | skipUp | setSound | addIndex | loadGlyph | storeDecimal | storeRegisters
      | loadRegisters | draw =>
    simp only [apply_ite (Option.map _), Option.map_none, Option.map_some]
    rfl
  all_goals rfl

end Instruction

end Chip8
