import Chip8.Proofs.Instruction.Effect
import Mathlib
/-!
An instruction does what its effect, its faults and its residue say.  The proof
goes through the instructions once; later modules only use the components.
-/

namespace Chip8

open Numeric (Binary64)

theorem Word.lowByte_toNat (byte : UInt8) : lowByte byte.toNat = byte := by
  apply UInt8.toNat_inj.mp
  have small := byte.toNat_lt
  have same := toNat_lowByte (byte.toNat : Int)
  omega

theorem SoundTimer.store_byte (byte : UInt8) :
    SoundTimer.store byte.toNat =
      if byte.toNat < 2 then .error (.soundTooShort byte.toNat) else .ok ⟨byte⟩ := by
  unfold SoundTimer.store
  rw [Word.lowByte_toNat]
  by_cases short : byte.toNat < 2
  · rw [if_pos short, if_pos]
    exact Int.ofNat_lt.mpr short
  · rw [if_neg short, if_neg]
    exact fun below => short (Int.ofNat_lt.mp below)

namespace Keypad

theorem isDown_eq_error {keypad : Keypad} {key : Nat} (outside : ¬ key < 16) :
    keypad.isDown key = .error (.keyOutside key) :=
  dif_neg (by omega)

theorem exists_isDown_eq_ok {keypad : Keypad} {key : Nat} (inside : key < 16) :
    ∃ down, keypad.isDown key = .ok down :=
  ⟨_, dif_pos (by omega)⟩

end Keypad

namespace Core

theorem jumpTo_eq (core : Core) (address : Int) :
    core.jumpTo address =
      match Memory.jumpFault? address with
      | some fault => .error fault
      | none => .ok { core with memory := { core.memory with programCounter := address } } := by
  simp only [jumpTo, tryMemory, Memory.jump_eq]
  cases Memory.jumpFault? address <;> rfl

theorem finishTransfer_eq (core : Core) (x : Fin 16) :
    core.finishTransfer x =
      { core with
        memory := { core.memory with
          index :=
            if core.dialect.movesIndex then (core.memory.index + (x.val + 1)) % 4096
            else core.memory.index } } := by
  unfold finishTransfer
  split <;> rfl

end Core

namespace Instruction

variable {instruction : Instruction} (now : Binary64) (core : Core)

theorem execute_ret (opcode : instruction.opcode = .ret) :
    instruction.execute now core = instruction.outcome now core := by
  obtain ⟨dialect, memory, registers, ⟨frames⟩, delay, sound, keypad, display, runState, redraw,
    random⟩ := core
  obtain ⟨word, _, x, y, n⟩ := instruction
  subst opcode
  cases frames with
  | nil =>
      simp only [execute, bind, EStateM.bind, Core.popReturn]
      rw [CallStack.pop_nil]
      rfl
  | cons target rest =>
      simp only [execute, bind, EStateM.bind, Core.popReturn]
      rw [CallStack.pop_cons]
      simp only [attempt, Core.jumpTo_eq, outcome, fault?]
      cases Memory.jumpFault? target <;> rfl

theorem execute_call (opcode : instruction.opcode = .call) :
    instruction.execute now core = instruction.outcome now core := by
  obtain ⟨word, _, x, y, n⟩ := instruction
  subst opcode
  simp only [execute, bind, EStateM.bind, attempt, Core.pushReturn, Except.bind, pure,
    Except.pure, outcome, fault?, residue]
  by_cases room : core.stack.depth < CallStack.limit
  · simp only [CallStack.push_of_room room, if_pos room, Core.jumpTo_eq]
    cases Memory.jumpFault? _ <;> rfl
  · simp only [CallStack.push_of_full room, if_neg room]

/-- A conditional instruction moves the program counter on if its condition holds. -/
theorem skipWhen_eq_effect (skip : instruction.opcode ∈ Opcode.conditional) :
    core.skipWhen (instruction.skips core) = instruction.effect now core := by
  obtain ⟨word, opcode, x, y, n⟩ := instruction
  simp only [Opcode.conditional, List.mem_cons, List.not_mem_nil, or_false] at skip
  rcases skip with rfl | rfl | rfl | rfl | rfl | rfl
  all_goals
    simp only [Core.skipWhen, effect, nextCounter]
    split <;> rfl

theorem execute_comparison
    (comparison : instruction.opcode ∈
      [Opcode.skipEqualByte, .skipUnequalByte, .skipEqual, .skipUnequal]) :
    instruction.execute now core = instruction.outcome now core := by
  have skip : instruction.opcode ∈ Opcode.conditional := by
    simp only [Opcode.conditional, List.mem_cons, List.not_mem_nil, or_false] at comparison ⊢
    tauto
  have skipped : instruction.execute now core =
      .ok () (core.skipWhen (instruction.skips core)) := by
    obtain ⟨word, opcode, x, y, n⟩ := instruction
    simp only [List.mem_cons, List.not_mem_nil, or_false] at comparison
    rcases comparison with rfl | rfl | rfl | rfl <;> rfl
  have accepted : instruction.fault? now core = none := by
    obtain ⟨word, opcode, x, y, n⟩ := instruction
    simp only [List.mem_cons, List.not_mem_nil, or_false] at comparison
    rcases comparison with rfl | rfl | rfl | rfl <;> rfl
  rw [skipped, skipWhen_eq_effect now core skip]
  simp only [outcome, accepted]

theorem execute_skipOnKey (wanted : Bool)
    (opcode : instruction.opcode = if wanted then .skipDown else .skipUp) :
    instruction.execute now core = instruction.outcome now core := by
  have changed : instruction.execute now core =
      attempt (·.skipOnKey instruction.x wanted) core := by
    cases wanted <;> simp only [execute, opcode] <;> rfl
  have tested : instruction.fault? now core =
      if (instruction.valueX core).toNat < 16 then none
      else some (.keyOutside (instruction.valueX core).toNat) := by
    cases wanted <;> simp only [fault?, opcode] <;> rfl
  have unchanged : instruction.residue core = core := by
    cases wanted <;> simp only [residue, opcode] <;> rfl
  have condition : instruction.skips core =
      decide (core.keypad.isDown (instruction.valueX core).toNat = .ok wanted) := by
    cases wanted <;> simp only [skips, opcode] <;> rfl
  have skip : instruction.opcode ∈ Opcode.conditional := by
    cases wanted <;> simp [opcode, Opcode.conditional]
  simp only [changed, outcome, tested, unchanged, attempt, Core.skipOnKey]
  by_cases inside : (instruction.valueX core).toNat < 16
  · obtain ⟨down, answered⟩ := core.keypad.exists_isDown_eq_ok inside
    rw [if_pos inside, answered, ← skipWhen_eq_effect now core skip, condition, answered]
    cases down <;> cases wanted <;> rfl
  · rw [if_neg inside, Keypad.isDown_eq_error inside]
    rfl

theorem execute_readDelay (opcode : instruction.opcode = .readDelay) :
    instruction.execute now core = instruction.outcome now core := by
  obtain ⟨word, _, x, y, n⟩ := instruction
  subst opcode
  simp only [execute, attempt, outcome, fault?, Core.readDelay, effect, nextDelay, nextRegisters,
    DelayTimer.loaded]
  cases core.delay.load now <;> rfl

theorem execute_awaitKey (opcode : instruction.opcode = .awaitKey) :
    instruction.execute now core = instruction.outcome now core := by
  obtain ⟨word, _, x, y, n⟩ := instruction
  subst opcode
  have waited : execute ⟨word, .awaitKey, x, y, n⟩ now core = .ok () (core.awaitKey x) := rfl
  rw [waited]
  simp only [Core.awaitKey, outcome, fault?, effect, nextCounter, nextRunState, nextRegisters]
  cases core.keypad.firstDown? <;> rfl

theorem execute_setSound (opcode : instruction.opcode = .setSound) :
    instruction.execute now core = instruction.outcome now core := by
  obtain ⟨word, _, x, y, n⟩ := instruction
  subst opcode
  simp only [execute, attempt, outcome, fault?, Core.setSound, SoundTimer.store_byte]
  by_cases short : (core.register x).toNat < 2
  · simp only [if_pos short]
    rfl
  · simp only [if_neg short]
    rfl

theorem execute_addIndex (opcode : instruction.opcode = .addIndex) :
    instruction.execute now core = instruction.outcome now core := by
  obtain ⟨word, _, x, y, n⟩ := instruction
  subst opcode
  simp only [execute, attempt, outcome, fault?, Core.addIndex, Memory.addIndex, effect, nextIndex,
    nextRegisters]
  cases core.dialect.flagsIndex with
  | true => rfl
  | false =>
      by_cases inside : core.memory.index + (core.register x).toNat < 4096
      · have below : ¬ (Memory.cellCount : Int) ≤
            core.memory.index + (core.register x).toNat := Int.not_le.mpr inside
        simp only [Bool.false_eq_true, if_false, if_neg below, if_pos inside]
        rfl
      · have beyond : (Memory.cellCount : Int) ≤
            core.memory.index + (core.register x).toNat := Int.not_lt.mp inside
        simp only [Bool.false_eq_true, if_false, if_pos beyond, if_neg inside]
        rfl

theorem execute_loadGlyph (opcode : instruction.opcode = .loadGlyph) :
    instruction.execute now core = instruction.outcome now core := by
  obtain ⟨word, _, x, y, n⟩ := instruction
  subst opcode
  simp only [execute, attempt, outcome, fault?, Core.tryMemory, Memory.pointAtGlyph, effect,
    nextIndex]
  cases core.dialect.masksGlyph with
  | true => rfl
  | false =>
      have digit : (0 ≤ ((core.register x).toNat : Int) ∧
          ((core.register x).toNat : Int) < Memory.glyphCount) ↔ (core.register x).toNat < 16 := by
        simp only [Memory.glyphCount]
        omega
      by_cases inside : (core.register x).toNat < 16
      · simp only [Bool.false_eq_true, if_false, if_pos (digit.mpr inside), if_pos inside]
        rfl
      · simp only [Bool.false_eq_true, if_false, if_neg (digit.not.mpr inside), if_neg inside]
        rfl

variable {core} (nonneg : 0 ≤ core.memory.index)

include nonneg

theorem execute_storeDecimal (opcode : instruction.opcode = .storeDecimal) :
    instruction.execute now core = instruction.outcome now core := by
  obtain ⟨word, _, x, y, n⟩ := instruction
  subst opcode
  have three : (Memory.decimalBytes (core.register x)).length = 3 := rfl
  simp only [execute, attempt, outcome, fault?, Core.tryMemory, Memory.writeDecimal_byte,
    Memory.writeWindow_eq nonneg, three]
  cases core.memory.windowFault? 3 <;> rfl

theorem execute_storeRegisters (opcode : instruction.opcode = .storeRegisters) :
    instruction.execute now core = instruction.outcome now core := by
  obtain ⟨word, _, x, y, n⟩ := instruction
  subst opcode
  simp only [execute, attempt, outcome, fault?, Core.storeRegisters, Core.tryMemory,
    Memory.writeWindow_eq nonneg, Registers.length_dump]
  cases core.memory.windowFault? (x.val + 1) with
  | some fault => rfl
  | none =>
      simp only [bind, Except.bind, pure, Except.pure, Core.finishTransfer_eq]
      rfl

theorem execute_loadRegisters (opcode : instruction.opcode = .loadRegisters) :
    instruction.execute now core = instruction.outcome now core := by
  obtain ⟨word, _, x, y, n⟩ := instruction
  subst opcode
  have read := Memory.readWindow_eq nonneg (x.val + 1)
  push_cast at read
  simp only [execute, attempt, outcome, fault?, Core.loadRegisters, read]
  cases core.memory.windowFault? (x.val + 1) with
  | some fault => rfl
  | none =>
      simp only [bind, Except.bind, pure, Except.pure, Core.finishTransfer_eq]
      rfl

theorem execute_draw (opcode : instruction.opcode = .draw) :
    instruction.execute now core = instruction.outcome now core := by
  obtain ⟨word, _, x, y, n⟩ := instruction
  subst opcode
  simp only [execute, attempt, outcome, fault?, Core.drawSprite, Memory.readWindow_eq nonneg]
  cases core.memory.windowFault? n.val <;> rfl

omit nonneg in
theorem execute_loadIndex (opcode : instruction.opcode = .loadIndex) :
    instruction.execute now core = instruction.outcome now core := by
  have range : 0 ≤ instruction.address ∧ instruction.address < (Memory.cellCount : Int) :=
    instruction.address_mem_range
  obtain ⟨word, _, x, y, n⟩ := instruction
  subst opcode
  simp only [execute, attempt, outcome, fault?, Core.tryMemory, Memory.setIndex, if_pos range]
  rfl

/-- The description by component is that of the instruction. -/
theorem execute_eq (instruction : Instruction) :
    instruction.execute now core = instruction.outcome now core := by
  cases opcode : instruction.opcode
  case ret => exact execute_ret now core opcode
  case call => exact execute_call now core opcode
  case skipEqualByte | skipUnequalByte | skipEqual | skipUnequal =>
    exact execute_comparison now core (by simp [opcode])
  case skipDown => exact execute_skipOnKey now core true opcode
  case skipUp => exact execute_skipOnKey now core false opcode
  case readDelay => exact execute_readDelay now core opcode
  case awaitKey => exact execute_awaitKey now core opcode
  case setSound => exact execute_setSound now core opcode
  case addIndex => exact execute_addIndex now core opcode
  case loadGlyph => exact execute_loadGlyph now core opcode
  case loadIndex => exact execute_loadIndex now opcode
  case storeDecimal => exact execute_storeDecimal now nonneg opcode
  case storeRegisters => exact execute_storeRegisters now nonneg opcode
  case loadRegisters => exact execute_loadRegisters now nonneg opcode
  case draw => exact execute_draw now nonneg opcode
  all_goals
    obtain ⟨word, _, x, y, n⟩ := instruction
    subst opcode
  case jump | jumpOffset =>
    simp only [execute, attempt, outcome, fault?, Core.jumpTo_eq]
    cases Memory.jumpFault? _ <;> rfl
  -- what is left changes registers, the screen, timers or the source of random bytes only
  all_goals rfl

end Instruction

end Chip8
