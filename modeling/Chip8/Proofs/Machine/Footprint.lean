import Chip8.Proofs.Instruction.Footprint
import Chip8.Proofs.Machine.Refusal
import Mathlib
/-!
The footprint of a completed cycle: what each instruction may change of the
machine, component by component, and where the program counter goes.
-/

namespace Chip8

open Numeric (Binary64)
open Registers (flagNumber)

namespace Machine

/-- What a completed cycle may have changed, for the instruction that it carried out. -/
structure Footprint (machine : Machine) (instruction : Instruction) (after : Machine) : Prop where
  /-- Only `FX33` and `FX55` write cells. -/
  ram : instruction.opcode ∉ [Opcode.storeDecimal, .storeRegisters] →
    after.core.memory.ram = machine.core.memory.ram
  /-- They write within `I..I+2` and `I..I+X`. -/
  cells : ∀ address, 0 ≤ address → ¬ instruction.WritesCell machine.core address →
    after.core.memory.byteAt address = machine.core.memory.byteAt address
  display : instruction.opcode ∉ [Opcode.clear, .draw] →
    after.core.display = machine.core.display
  /-- A call puts the address behind it on the stack. -/
  called : instruction.opcode = .call →
    after.core.stack.frames = (machine.core.memory.programCounter + 2) :: machine.core.stack.frames
  /-- A return takes an address from the stack, and goes there. -/
  returned : instruction.opcode = .ret →
    machine.core.stack.frames = after.core.memory.programCounter :: after.core.stack.frames
  stack : instruction.opcode ∉ [Opcode.call, .ret] → after.core.stack = machine.core.stack
  keypad : after.core.keypad = machine.core.keypad
  delay : instruction.opcode ∉ [Opcode.readDelay, .setDelay] →
    after.core.delay = machine.core.delay
  /-- The sound timer goes down by one from its old or its newly set value. -/
  sound : after.core.sound.value.toNat =
    (if instruction.opcode = .setSound then instruction.valueX machine.core
      else machine.core.sound.value).toNat - 1
  /-- A wait begins when there is no key to read. -/
  waits : instruction.opcode = .awaitKey ∧ machine.core.keypad.AllUp →
    after.core.runState = .awaitingKey
  runState : ¬ (instruction.opcode = .awaitKey ∧ machine.core.keypad.AllUp) →
    after.core.runState = machine.core.runState
  index : instruction.opcode ∉ [Opcode.loadIndex, .addIndex, .loadGlyph] →
    ¬ (instruction.opcode ∈ [Opcode.storeRegisters, .loadRegisters] ∧
      machine.core.dialect.movesIndex = true) →
    after.core.memory.index = machine.core.memory.index
  /-- `CXKK` draws exactly one byte, and nothing else draws any. -/
  random : after.core.random =
    if instruction.opcode = .random then machine.core.random.next.2 else machine.core.random
  /-- No register outside the written ones changes. -/
  registers : ∀ number, number ∉ instruction.writes machine.core →
    after.core.register number = machine.core.register number
  registerOther : ∀ number, number ≠ instruction.x → number ≠ flagNumber →
    ¬ (instruction.opcode = .loadRegisters ∧ number ≤ instruction.x) →
    after.core.register number = machine.core.register number
  registerX : instruction.x ≠ flagNumber → instruction.opcode ∉ Instruction.writesX →
    ¬ (instruction.opcode = .awaitKey ∧ ¬ machine.core.keypad.AllUp) →
    after.core.register instruction.x = machine.core.register instruction.x
  registerFlag : instruction.x ≠ flagNumber → instruction.opcode ∉ Instruction.writesFlag →
    ¬ (instruction.opcode = .addIndex ∧ machine.core.dialect.flagsIndex = true) →
    ¬ (instruction.opcode ∈ [Opcode.or, .and, .xor] ∧
      machine.core.dialect.logicClearsFlag = true) →
    after.core.register flagNumber = machine.core.register flagNumber
  /-- A jump and a call go to the address in the word. -/
  jumped : instruction.opcode = .jump ∨ instruction.opcode = .call →
    after.core.memory.programCounter = machine.core.nextWord % 0x1000
  jumpedOffset : instruction.opcode = .jumpOffset →
    after.core.memory.programCounter = machine.core.offsetSum machine.core.nextWord
  skipped : instruction.skips machine.core = true →
    after.core.memory.programCounter = machine.core.memory.programCounter + 4
  /-- While it waits for a key the machine stays at the instruction. -/
  stayed : instruction.opcode = .awaitKey ∧ machine.core.keypad.AllUp →
    after.core.memory.programCounter = machine.core.memory.programCounter
  passed : instruction.opcode ∉ [Opcode.jump, .call, .ret, .jumpOffset] →
    instruction.skips machine.core = false →
    ¬ (instruction.opcode = .awaitKey ∧ machine.core.keypad.AllUp) →
    after.core.memory.programCounter = machine.core.memory.programCounter + 2
  dialect : after.core.dialect = machine.core.dialect
  redraw : after.core.redraw = true ↔ instruction.opcode ∈ [Opcode.clear, .draw]
  cycleCount : after.cycleCount = machine.cycleCount + 1

variable {machine : Machine} {instruction : Instruction} {now : Binary64}

/-- Where a carried out return leads to. -/
theorem returned_of_accepted
    (opcode : instruction.opcode = .ret)
    (accepted : instruction.fault? now machine.core.fetched = none) :
    machine.core.stack.frames =
      instruction.nextCounter machine.core.fetched ::
        (instruction.nextStack machine.core.fetched).frames := by
  have unmoved : machine.core.fetched.stack = machine.core.stack := rfl
  simp only [Instruction.fault?, opcode, unmoved] at accepted
  simp only [Instruction.nextCounter, Instruction.nextStack, opcode, unmoved]
  cases stacked : machine.core.stack.frames with
  | nil => simp only [stacked, reduceCtorEq] at accepted
  | cons target rest => rfl

theorem footprint_completed
    (wellFormed : machine.core.WellFormed) (reaches : machine.core.Reaches instruction)
    (accepted : instruction.fault? now machine.core.fetched = none) :
    machine.Footprint instruction
      ⟨machine.core.completed instruction now, machine.cycleCount + 1⟩ where
  ram other := Instruction.nextRam_of_not_mem other
  cells := by
    intro address nonneg free
    have indexNonneg : 0 ≤ machine.core.fetched.memory.index := wellFormed.indexNonneg
    exact Instruction.byteAt_nextRam indexNonneg accepted nonneg free
  display other := Instruction.nextDisplay_of_not_mem other
  called := by
    intro call
    have stacked : (machine.core.completed instruction now).stack =
        instruction.nextStack machine.core.fetched := rfl
    simp only [stacked, Instruction.nextStack, call]
    rfl
  returned opcode := returned_of_accepted opcode accepted
  stack other := Instruction.nextStack_of_not_mem other
  keypad := rfl
  delay other := Instruction.nextDelay_of_not_mem other
  sound := by
    have heard : (machine.core.completed instruction now).sound =
        (instruction.nextSound machine.core).decrease := rfl
    rw [heard, SoundTimer.toNat_decrease]
    unfold Instruction.nextSound
    cases instruction.opcode <;> rfl
  waits := by
    rintro ⟨opcode, up⟩
    have state : (machine.core.completed instruction now).runState =
        instruction.nextRunState machine.core.fetched := rfl
    have none : machine.core.fetched.keypad.firstDown? = none :=
      Keypad.firstDown?_eq_none_iff.mpr up
    simp only [state, Instruction.nextRunState, opcode, if_pos none]
  runState other := Instruction.nextRunState_of_not other
  index other transfer := Instruction.nextIndex_of_not other transfer
  random := by
    have drawn : (machine.core.completed instruction now).random =
        instruction.nextRandom machine.core.fetched := rfl
    rw [drawn]
    unfold Instruction.nextRandom
    cases instruction.opcode <;> rfl
  registers number outside := Instruction.agreeOff_nextRegisters number outside
  registerOther number notX notFlag notLoaded :=
    Instruction.agreeOff_nextRegisters number
      (Instruction.not_mem_writes_of_ne notX notFlag notLoaded)
  registerX notFlag other unanswered :=
    Instruction.agreeOff_nextRegisters instruction.x
      (Instruction.x_not_mem_writes notFlag other unanswered)
  registerFlag notX other sum logic :=
    Instruction.agreeOff_nextRegisters flagNumber
      (Instruction.flag_not_mem_writes notX other sum logic)
  jumped := by
    intro jumps
    rw [Core.counter_completed, ← Instruction.address_of_decode reaches.decoded]
    unfold Instruction.nextCounter
    rcases jumps with jump | call
    · rw [jump]
    · rw [call]
  jumpedOffset := by
    intro jumps
    rw [Core.counter_completed, ← Instruction.offsetTarget_fetched reaches.decoded]
    unfold Instruction.nextCounter
    rw [jumps]
  skipped := by
    intro skips
    have skipped : instruction.skips machine.core.fetched = true := skips
    rw [Core.counter_completed, Instruction.nextCounter_of_skips skipped, Core.counter_fetched]
    omega
  stayed := by
    rintro ⟨opcode, up⟩
    have none : machine.core.fetched.keypad.firstDown? = none :=
      Keypad.firstDown?_eq_none_iff.mpr up
    rw [Core.counter_completed]
    unfold Instruction.nextCounter
    simp only [opcode, if_pos none, Core.counter_fetched]
    omega
  passed := by
    intro other skips answered
    have inPlace : instruction.skips machine.core.fetched = false := skips
    have running : ¬ (instruction.opcode = .awaitKey ∧ machine.core.fetched.keypad.AllUp) :=
      answered
    rw [Core.counter_completed, Instruction.nextCounter_of_not other inPlace running,
      Core.counter_fetched]
  dialect := rfl
  redraw := Instruction.nextRedraw_iff rfl
  cycleCount := rfl

/--
The footprint of a cycle: a machine that does not wait for a key and whose
cycle does not fail has carried out the instruction at its program counter, and
has changed nothing that is not in the footprint of that instruction.
-/
theorem step_footprint
    {after : Machine} (reachable : machine.Reachable)
    (ready : machine.core.runState ≠ .awaitingKey) {readings : Readings}
    {snapshot : Snapshot RegisterView} (stepped : machine.step readings = .ok snapshot after) :
    ∃ instruction, machine.core.Reaches instruction ∧ machine.Footprint instruction after := by
  have wellFormed := wellFormed_of_reachable reachable
  have cycle := cycle_of_wellFormed wellFormed readings
  rw [stepped] at cycle
  cases cycle with
  | waited awaiting => exact absurd awaiting ready
  | completed reaches accepted =>
      exact ⟨_, reaches, footprint_completed wellFormed reaches accepted⟩

/-- A byte is loaded into a register. -/
theorem step_footprint_loadByte :
    let machine := unloaded.run [.load [0x60, 0x05]]
    machine.core.runState ≠ .awaitingKey ∧
      ∃ snapshot after, machine.step (.still .zero) = .ok snapshot after ∧
        ∃ instruction, machine.core.Reaches instruction ∧ machine.Footprint instruction after := by
  intro machine
  obtain ⟨ready, success⟩ : machine.core.runState ≠ .awaitingKey ∧
      succeeded (machine.step (.still .zero)) = true := by
    decide +kernel
  have reachable : machine.Reachable := reachable_run_unloaded _
  clear_value machine
  cases stepped : machine.step (.still .zero) with
  | ok snapshot after =>
      exact ⟨ready, snapshot, after, rfl, step_footprint reachable ready stepped⟩
  | error fault after =>
      rw [stepped] at success
      cases success

end Machine

end Chip8
