import Chip8.Proofs.Machine.Cycle
import Chip8.Proofs.Machine.Run
import Mathlib
/-!
The invariant of the machine.  Return addresses are those that calls have put
on the stack, so a return never leads out of the program area, and only a
skip leads past the end of that area.
-/

namespace Chip8

open Numeric (Binary64)

theorem Memory.jumpFault?_eq_none_iff {address : Int} :
    jumpFault? address = none ↔ InProgram address := by
  simp [jumpFault?]

namespace Core

/-- What holds of the core of a machine at all times. -/
structure WellFormed (core : Core) : Prop where
  sixteen : core.registers.values.size = 16
  indexNonneg : 0 ≤ core.memory.index
  indexSmall : core.memory.index < 0x1000
  shallow : core.stack.depth ≤ CallStack.limit
  frames : ∀ address ∈ core.stack.frames, 0x202 ≤ address ∧ address ≤ 0xEA0
  counterLow : 0x200 ≤ core.memory.programCounter
  counterHigh : core.memory.programCounter ≤ 0xEA2

/-- The program counter lies where a fetch can have left it. -/
def BehindFetch (core : Core) : Prop :=
  0x202 ≤ core.memory.programCounter ∧ core.memory.programCounter ≤ 0xEA0

/-- New machines and machines after a reset agree on all that the invariant is about. -/
theorem wellFormed_of_initial
    {core : Core} (memory : core.memory = .initial) (registers : core.registers = .initial)
    (stack : core.stack = .empty) :
    core.WellFormed where
  sixteen := by rw [registers]; rfl
  indexNonneg := by rw [memory]; decide
  indexSmall := by rw [memory]; decide
  shallow := by rw [stack]; decide
  frames := by
    rw [stack]
    intro address membership
    cases membership
  counterLow := by rw [memory]; decide
  counterHigh := by rw [memory]; decide

/-- The invariant is about the registers, the address registers and the stack only. -/
theorem WellFormed.of_same
    {core changed : Core} (wellFormed : core.WellFormed)
    (registers : changed.registers = core.registers)
    (index : changed.memory.index = core.memory.index)
    (counter : changed.memory.programCounter = core.memory.programCounter)
    (stack : changed.stack = core.stack) :
    changed.WellFormed where
  sixteen := by rw [registers]; exact wellFormed.sixteen
  indexNonneg := by rw [index]; exact wellFormed.indexNonneg
  indexSmall := by rw [index]; exact wellFormed.indexSmall
  shallow := by rw [stack]; exact wellFormed.shallow
  frames := by rw [stack]; exact wellFormed.frames
  counterLow := by rw [counter]; exact wellFormed.counterLow
  counterHigh := by rw [counter]; exact wellFormed.counterHigh

theorem WellFormed.counterNonneg {core : Core} (wellFormed : core.WellFormed) :
    0 ≤ core.memory.programCounter :=
  le_trans (by decide) wellFormed.counterLow

theorem WellFormed.begun {core : Core} (wellFormed : core.WellFormed) : core.begun.WellFormed :=
  wellFormed.of_same rfl rfl rfl rfl

theorem WellFormed.behindFetch
    {core : Core} (wellFormed : core.WellFormed) (fetches : core.Fetches) :
    core.fetched.BehindFetch := by
  have low := wellFormed.counterLow
  have high := fetches.counter_le
  rw [BehindFetch, counter_fetched]
  omega

theorem WellFormed.fetched
    {core : Core} (wellFormed : core.WellFormed) (fetches : core.Fetches) :
    core.fetched.WellFormed where
  sixteen := wellFormed.sixteen
  indexNonneg := wellFormed.indexNonneg
  indexSmall := wellFormed.indexSmall
  shallow := wellFormed.shallow
  frames := wellFormed.frames
  counterLow := le_trans (by decide) (wellFormed.behindFetch fetches).1
  counterHigh := le_trans (wellFormed.behindFetch fetches).2 (by decide)

end Core

namespace Instruction

variable {instruction : Instruction} {now : Binary64} {core : Core}

theorem size_nextRegisters (sixteen : core.registers.values.size = 16) :
    (instruction.nextRegisters now core).values.size = 16 := by
  unfold nextRegisters
  cases instruction.opcode
  case awaitKey =>
    simp only
    split <;> simp [sixteen]
  case addIndex =>
    simp only
    split <;> simp [sixteen]
  case loadRegisters =>
    have fits : (core.memory.window (instruction.x.val + 1)).length ≤
        core.registers.values.size := by
      rw [Memory.length_window, sixteen]
      exact instruction.x.isLt
    exact (Registers.size_loadBytes _ fits).trans sixteen
  all_goals simp [sixteen]

theorem nextIndex_mem_range
    (wellFormed : core.WellFormed) (accepted : instruction.fault? now core = none) :
    0 ≤ instruction.nextIndex core ∧ instruction.nextIndex core < 0x1000 := by
  have nonneg := wellFormed.indexNonneg
  have small := wellFormed.indexSmall
  unfold nextIndex
  unfold fault? at accepted
  cases opcode : instruction.opcode
  case loadIndex => exact instruction.address_mem_range
  case addIndex =>
    simp only [opcode] at accepted ⊢
    by_cases wraps : core.dialect.flagsIndex
    · simp only [wraps, if_true]
      omega
    · simp only [wraps, Bool.false_eq_true, if_false] at accepted ⊢
      split at accepted
      · omega
      · cases accepted
  case loadGlyph =>
    simp only [opcode] at accepted ⊢
    by_cases masks : core.dialect.masksGlyph
    · simp only [masks, if_true]
      omega
    · simp only [masks, Bool.false_eq_true, if_false] at accepted ⊢
      split at accepted
      · omega
      · cases accepted
  case storeRegisters | loadRegisters =>
    simp only
    split <;> omega
  all_goals exact ⟨nonneg, small⟩

theorem nextStack_shallow
    (wellFormed : core.WellFormed) (accepted : instruction.fault? now core = none) :
    (instruction.nextStack core).depth ≤ CallStack.limit := by
  have shallow := wellFormed.shallow
  unfold nextStack
  unfold fault? at accepted
  cases opcode : instruction.opcode
  case call =>
    simp only [opcode] at accepted
    split at accepted
    next room => exact room
    next full => cases accepted
  case ret =>
    refine le_trans ?_ shallow
    simp only [CallStack.depth, List.length_tail]
    omega
  all_goals exact shallow

theorem nextStack_frames
    (wellFormed : core.WellFormed) (behind : core.BehindFetch) :
    ∀ address ∈ (instruction.nextStack core).frames, 0x202 ≤ address ∧ address ≤ 0xEA0 := by
  have frames := wellFormed.frames
  unfold nextStack
  cases instruction.opcode
  case call =>
    intro address membership
    rcases List.mem_cons.mp membership with rfl | earlier
    · exact behind
    · exact frames address earlier
  case ret =>
    intro address membership
    exact frames address (List.mem_of_mem_tail membership)
  all_goals exact frames

/-- Only a skip leads past the end of the program area. -/
theorem nextCounter_mem_range
    (behind : core.BehindFetch) (accepted : instruction.fault? now core = none) :
    0x200 ≤ instruction.nextCounter core ∧
      (instruction.nextCounter core ≤ 0xEA0 ∨
        instruction.skips core = true ∧
          instruction.nextCounter core = core.memory.programCounter + 2) := by
  obtain ⟨low, high⟩ := behind
  have inside {address : Int} (allowed : Memory.jumpFault? address = none) :
      0x200 ≤ address ∧ address ≤ 0xEA0 := Memory.jumpFault?_eq_none_iff.mp allowed
  unfold nextCounter
  unfold fault? at accepted
  cases opcode : instruction.opcode
  case jump | jumpOffset =>
    simp only [opcode] at accepted ⊢
    have range := inside accepted
    omega
  case call =>
    simp only [opcode] at accepted ⊢
    split at accepted
    · have range := inside accepted
      omega
    · cases accepted
  case ret =>
    simp only [opcode] at accepted ⊢
    cases stacked : core.stack.frames with
    | nil => simp only [stacked, reduceCtorEq] at accepted
    | cons target rest =>
        simp only [stacked] at accepted
        have range := inside accepted
        simp only [List.headD_cons]
        omega
  case awaitKey =>
    simp only
    split <;> omega
  all_goals
    simp only
    by_cases passed : instruction.skips core = true
    · rw [if_pos passed]
      exact ⟨by omega, .inr ⟨passed, rfl⟩⟩
    · rw [if_neg passed]
      omega

/-- An instruction that meets no fault keeps the invariant. -/
theorem wellFormed_effect
    (wellFormed : core.WellFormed) (behind : core.BehindFetch)
    (accepted : instruction.fault? now core = none) :
    (instruction.effect now core).WellFormed where
  sixteen := size_nextRegisters wellFormed.sixteen
  indexNonneg := (nextIndex_mem_range wellFormed accepted).1
  indexSmall := (nextIndex_mem_range wellFormed accepted).2
  shallow := nextStack_shallow wellFormed accepted
  frames := nextStack_frames wellFormed behind
  counterLow := (nextCounter_mem_range behind accepted).1
  counterHigh := by
    have high := behind.2
    have same : (instruction.effect now core).memory.programCounter =
        instruction.nextCounter core := rfl
    rcases (nextCounter_mem_range behind accepted).2 with inside | ⟨-, skipped⟩ <;> omega

/-- An instruction that meets a fault keeps the invariant too. -/
theorem wellFormed_residue
    (wellFormed : core.WellFormed) (behind : core.BehindFetch) :
    (instruction.residue core).WellFormed := by
  unfold residue
  cases instruction.opcode
  case call =>
    simp only
    split
    next room =>
      refine ⟨wellFormed.sixteen, wellFormed.indexNonneg, wellFormed.indexSmall, room, ?_,
        wellFormed.counterLow, wellFormed.counterHigh⟩
      intro address membership
      rcases List.mem_cons.mp membership with rfl | earlier
      · exact behind
      · exact wellFormed.frames address earlier
    next full => exact wellFormed
  case ret =>
    refine ⟨wellFormed.sixteen, wellFormed.indexNonneg, wellFormed.indexSmall, ?_, ?_,
      wellFormed.counterLow, wellFormed.counterHigh⟩
    · refine le_trans ?_ wellFormed.shallow
      simp only [CallStack.depth, List.length_tail]
      omega
    · intro address membership
      exact wellFormed.frames address (List.mem_of_mem_tail membership)
  all_goals exact wellFormed

end Instruction

namespace Machine

/-- However a cycle ends, it keeps the invariant. -/
theorem wellFormed_cycle
    {machine : Machine} {readings : Readings}
    {result : EStateM.Result Fault Machine (Snapshot RegisterView)}
    (wellFormed : machine.core.WellFormed) (cycle : machine.Cycle readings result) :
    (stateOf result).core.WellFormed := by
  have carriedOut {instruction : Instruction}
      (reaches : machine.core.Reaches instruction)
      (accepted : instruction.fault? readings.execution machine.core.fetched = none) :
      (machine.core.completed instruction readings.execution).WellFormed := by
    have changed := Instruction.wellFormed_effect (wellFormed.fetched reaches.toFetches)
      (wellFormed.behindFetch reaches.toFetches) accepted
    exact changed.of_same rfl rfl rfl rfl
  cases cycle with
  | waited => exact wellFormed.begun
  | waitedUnseen => exact wellFormed.begun
  | outside => exact wellFormed.begun
  | undecoded fetches => exact wellFormed.fetched fetches
  | refused reaches =>
      exact Instruction.wellFormed_residue (wellFormed.fetched reaches.toFetches)
        (wellFormed.behindFetch reaches.toFetches)
  | completed reaches accepted => exact carriedOut reaches accepted
  | unseen reaches accepted => exact carriedOut reaches accepted

theorem cycle_of_wellFormed
    {machine : Machine} (wellFormed : machine.core.WellFormed) (readings : Readings) :
    machine.Cycle readings (machine.step readings) :=
  cycle_step readings wellFormed.counterNonneg wellFormed.indexNonneg

/-- An accepted instruction is carried out, whether or not the machine can be shown afterwards. -/
theorem after_step_of_accepted
    {machine : Machine} {readings : Readings} {instruction : Instruction}
    (wellFormed : machine.core.WellFormed) (reaches : machine.core.Reaches instruction)
    (accepted : instruction.fault? readings.execution machine.core.fetched = none) :
    machine.after (.step readings) =
      ⟨machine.core.completed instruction readings.execution, machine.cycleCount + 1⟩ := by
  rw [after_step, step_ready reaches.ready, carryOut_fetched readings wellFormed.counterNonneg
    wellFormed.indexNonneg reaches.toFetches, reaches.decoded]
  simp only [accepted, conclude_eq]
  cases (machine.core.completed instruction readings.execution).view readings.snapshot <;> rfl

/-- Every operation of the host keeps the invariant. -/
theorem wellFormed_after
    {machine : Machine} (event : HostEvent) (wellFormed : machine.core.WellFormed) :
    (machine.after event).core.WellFormed := by
  rcases machine.after_cases event with
    ⟨now, -, left⟩ | ⟨readings, -, left⟩ | ⟨ram, keypad, runState, left⟩
  · rw [left]
    exact Core.wellFormed_of_initial rfl rfl rfl
  · rw [left]
    exact wellFormed_cycle wellFormed (cycle_of_wellFormed wellFormed readings)
  · rw [left]
    exact wellFormed.of_same rfl rfl rfl rfl

theorem exists_of_create
    {dialect : Dialect} {random : Random.Source} {now : Binary64} {start : Machine}
    (created : create dialect random now = .ok start) :
    ∃ display, Display.create dialect.displayWidth dialect.displayHeight = .ok display ∧
      start = ⟨Core.initial dialect display random now, 0⟩ := by
  unfold create at created
  cases made : Display.create dialect.displayWidth dialect.displayHeight with
  | ok display =>
      rw [made] at created
      cases created
      exact ⟨display, rfl, rfl⟩
  | error fault =>
      rw [made] at created
      cases created

/-- The invariant holds in every run. -/
theorem wellFormed_of_reachable
    {machine : Machine} (reachable : machine.Reachable) : machine.core.WellFormed := by
  refine reachable_induction (motive := fun machine => machine.core.WellFormed) ?_ ?_ reachable
  · intro dialect random now start created
    obtain ⟨display, -, rfl⟩ := exists_of_create created
    exact Core.wellFormed_of_initial rfl rfl rfl
  · intro machine event wellFormed
    exact wellFormed_after event wellFormed

theorem wellFormed_run
    {dialect : Dialect} {random : Random.Source} {now : Binary64} {start : Machine}
    (created : create dialect random now = .ok start) (events : List HostEvent) :
    (start.run events).core.WellFormed :=
  wellFormed_of_reachable ⟨dialect, random, now, start, events, created, rfl⟩

end Machine

end Chip8
