import Chip8.Machine.Host
import Chip8.Proofs.Instruction.Outcome
import Chip8.Proofs.Instruction.Pattern
import Mathlib
/-!
The outcomes of one cycle.  A cycle ends in one of seven ways, and each of them
says in what state it leaves the machine.  Whatever is proved about cycles is
proved about these ways.
-/

namespace Chip8

open Numeric (Binary64)

namespace Core

/-- The core at the beginning of a cycle, with the redraw mark cleared. -/
def begun (core : Core) : Core :=
  { core with redraw := false }

/-- The core in a cycle that has fetched a word. -/
def fetched (core : Core) : Core :=
  { core with memory := core.memory.advance, redraw := false }

/-- The word at the program counter. -/
def nextWord (core : Core) : Int :=
  core.memory.wordAt core.memory.programCounter

/-- The core after a cycle that has carried out an instruction. -/
def completed (core : Core) (instruction : Instruction) (now : Binary64) : Core :=
  { instruction.effect now core.fetched with sound := (instruction.nextSound core).decrease }

theorem counter_fetched (core : Core) :
    core.fetched.memory.programCounter = core.memory.programCounter + 2 := rfl

theorem counter_completed (core : Core) (instruction : Instruction) (now : Binary64) :
    (core.completed instruction now).memory.programCounter =
      instruction.nextCounter core.fetched := rfl

/-- A cycle fetches a word. -/
structure Fetches (core : Core) : Prop where
  ready : core.runState ≠ .awaitingKey
  inside : core.memory.programCounter + Memory.instructionSize ≤ Memory.reservedStart

theorem Fetches.counter_le {core : Core} (fetches : core.Fetches) :
    core.memory.programCounter ≤ 0xE9E := by
  have inside := fetches.inside
  simp only [Memory.instructionSize, Memory.reservedStart] at inside
  omega

theorem fetches_of_le
    {core : Core} (ready : core.runState ≠ .awaitingKey)
    (inside : core.memory.programCounter ≤ 0xE9E) : core.Fetches where
  ready := ready
  inside := by
    simp only [Memory.instructionSize, Memory.reservedStart]
    omega

theorem outside_of_le
    {core : Core} (beyond : 0xE9F ≤ core.memory.programCounter) :
    Memory.reservedStart < core.memory.programCounter + Memory.instructionSize := by
  simp only [Memory.instructionSize, Memory.reservedStart]
  omega

/-- A cycle fetches the word of an instruction. -/
structure Reaches (core : Core) (instruction : Instruction) : Prop extends core.Fetches where
  decoded : Instruction.decode core.nextWord = .ok instruction

/-- The next word as an instruction of some kind. -/
def nextInstruction (core : Core) (opcode : Opcode) : Instruction :=
  ⟨core.nextWord, opcode, Word.nibble core.nextWord 2, Word.nibble core.nextWord 1,
    Word.nibble core.nextWord 0⟩

theorem reaches_of_matches
    {core : Core} {opcode : Opcode} (ready : core.runState ≠ .awaitingKey)
    (inside : core.memory.programCounter ≤ 0xE9E) (matched : opcode.Matches core.nextWord) :
    core.Reaches (core.nextInstruction opcode) where
  toFetches := fetches_of_le ready inside
  decoded := Instruction.decode_eq_ok_iff.mpr ⟨matched, rfl⟩

theorem Reaches.matched {core : Core} {instruction : Instruction}
    (reaches : core.Reaches instruction) : instruction.opcode.Matches core.nextWord :=
  (Instruction.decode_eq_ok_iff.mp reaches.decoded).1

end Core

namespace Machine

/-- The snapshot that a cycle gives while the machine waits for a key. -/
def waitSnapshot (machine : Machine) (view : RegisterView) : Snapshot RegisterView where
  view := view
  operation := Core.waitOperation
  cycleCount := machine.cycleCount
  symbol := Architecture.symbolOf machine.core.memory.programCounter Core.waitOperation.text
  redraw := false

/-- The snapshot that a cycle gives after an instruction. -/
def instructionSnapshot (machine : Machine) (instruction : Instruction) (view : RegisterView) :
    Snapshot RegisterView :=
  let operation := instruction.operation machine.core.dialect.jumpsByX
  { view := view
    operation := operation
    cycleCount := machine.cycleCount + 1
    symbol := Architecture.symbolOf machine.core.memory.programCounter operation.text
    redraw := instruction.nextRedraw machine.core.begun }

/--
The ways in which a cycle can end.  In two of them, `waitedUnseen` and `unseen`,
all is done but the delay timer cannot be shown.
-/
inductive Cycle (machine : Machine) (readings : Readings) :
    EStateM.Result Fault Machine (Snapshot RegisterView) → Prop where
  | waited {view} :
      machine.core.runState = .awaitingKey →
      machine.core.view readings.snapshot = .ok view →
      Cycle machine readings
        (.ok (machine.waitSnapshot view) ⟨machine.core.begun, machine.cycleCount⟩)
  | waitedUnseen {fault} :
      machine.core.runState = .awaitingKey →
      machine.core.view readings.snapshot = .error fault →
      Cycle machine readings (.error fault ⟨machine.core.begun, machine.cycleCount⟩)
  | outside :
      machine.core.runState ≠ .awaitingKey →
      Memory.reservedStart < machine.core.memory.programCounter + Memory.instructionSize →
      Cycle machine readings
        (.error (.fetchOutside machine.core.memory.programCounter)
          ⟨machine.core.begun, machine.cycleCount⟩)
  | undecoded {fault} :
      machine.core.Fetches →
      Instruction.decode machine.core.nextWord = .error fault →
      Cycle machine readings (.error fault ⟨machine.core.fetched, machine.cycleCount⟩)
  | refused {instruction fault} :
      machine.core.Reaches instruction →
      instruction.fault? readings.execution machine.core.fetched = some fault →
      Cycle machine readings
        (.error fault ⟨instruction.residue machine.core.fetched, machine.cycleCount⟩)
  | completed {instruction view} :
      machine.core.Reaches instruction →
      instruction.fault? readings.execution machine.core.fetched = none →
      (machine.core.completed instruction readings.execution).view readings.snapshot = .ok view →
      Cycle machine readings
        (.ok (machine.instructionSnapshot instruction view)
          ⟨machine.core.completed instruction readings.execution, machine.cycleCount + 1⟩)
  | unseen {instruction fault} :
      machine.core.Reaches instruction →
      instruction.fault? readings.execution machine.core.fetched = none →
      (machine.core.completed instruction readings.execution).view readings.snapshot =
        .error fault →
      Cycle machine readings
        (.error fault
          ⟨machine.core.completed instruction readings.execution, machine.cycleCount + 1⟩)

/-- A cycle clears the redraw mark and then asks whether the machine waits. -/
theorem step_eq (machine : Machine) (readings : Readings) :
    machine.step readings =
      match Core.waiting? readings.snapshot machine.cycleCount machine.core.memory.programCounter
          machine.core.begun with
      | .ok (some snapshot) core => .ok snapshot ⟨core, machine.cycleCount⟩
      | .ok none core =>
          (Counted.onCore (Core.architecture readings).carryOut >>=
            (Core.architecture readings).conclude machine.core.memory.programCounter)
              ⟨core, machine.cycleCount⟩
      | .error fault core => .error fault ⟨core, machine.cycleCount⟩ := by
  have cleared :
      (Core.architecture readings).begin machine.core = .ok () machine.core.begun := rfl
  have address :
      (Core.architecture readings).address machine.core.begun =
        .ok machine.core.memory.programCounter machine.core.begun := rfl
  have asked :
      (Core.architecture readings).halted? = Core.waiting? readings.snapshot := rfl
  simp only [step, Architecture.step, bind, EStateM.bind, Counted.onCore, Counted.count, cleared,
    address, asked]
  cases Core.waiting? readings.snapshot machine.cycleCount machine.core.memory.programCounter
      machine.core.begun with
  | ok halted core => cases halted <;> rfl
  | error fault core => rfl

theorem step_waiting
    {machine : Machine} {readings : Readings}
    (awaiting : machine.core.runState = .awaitingKey) :
    machine.step readings =
      match machine.core.view readings.snapshot with
      | .ok view => .ok (machine.waitSnapshot view) ⟨machine.core.begun, machine.cycleCount⟩
      | .error fault => .error fault ⟨machine.core.begun, machine.cycleCount⟩ := by
  have unchanged : machine.core.begun.view readings.snapshot =
      machine.core.view readings.snapshot := rfl
  have stays : machine.core.begun.runState = .awaitingKey := awaiting
  rw [step_eq]
  simp only [Core.waiting?, bind, EStateM.bind, get, getThe, MonadStateOf.get, EStateM.get,
    if_pos stays, Core.viewAction, unchanged]
  cases machine.core.view readings.snapshot <;> rfl

theorem step_ready
    {machine : Machine} {readings : Readings}
    (ready : machine.core.runState ≠ .awaitingKey) :
    machine.step readings =
      match (Core.architecture readings).carryOut machine.core.begun with
      | .ok operation core =>
          (Core.architecture readings).conclude machine.core.memory.programCounter operation
            ⟨core, machine.cycleCount⟩
      | .error fault core => .error fault ⟨core, machine.cycleCount⟩ := by
  have stays : machine.core.begun.runState ≠ .awaitingKey := ready
  rw [step_eq]
  simp only [Core.waiting?, bind, EStateM.bind, get, getThe, MonadStateOf.get, EStateM.get,
    if_neg stays, pure, EStateM.pure, Counted.onCore]
  cases (Core.architecture readings).carryOut machine.core.begun <;> rfl

theorem carryOut_outside
    {machine : Machine} (readings : Readings)
    (outside : Memory.reservedStart <
      machine.core.memory.programCounter + Memory.instructionSize) :
    (Core.architecture readings).carryOut machine.core.begun =
      .error (.fetchOutside machine.core.memory.programCounter) machine.core.begun := by
  have refused : Core.fetch machine.core.begun =
      .error (.fetchOutside machine.core.memory.programCounter) machine.core.begun := by
    simp only [Core.fetch, Core.begun, Memory.fetch_eq_error outside]
  have read : (Core.architecture readings).fetch = Core.fetch := rfl
  simp only [Architecture.carryOut, bind, EStateM.bind, read, refused]

theorem carryOut_fetched
    {machine : Machine} (readings : Readings)
    (counterNonneg : 0 ≤ machine.core.memory.programCounter)
    (indexNonneg : 0 ≤ machine.core.memory.index)
    (fetches : machine.core.Fetches) :
    (Core.architecture readings).carryOut machine.core.begun =
      match Instruction.decode machine.core.nextWord with
      | .error fault => .error fault machine.core.fetched
      | .ok instruction =>
          match instruction.fault? readings.execution machine.core.fetched with
          | some fault => .error fault (instruction.residue machine.core.fetched)
          | none =>
              .ok (instruction.operation machine.core.dialect.jumpsByX)
                (machine.core.completed instruction readings.execution) := by
  have read : Core.fetch machine.core.begun = .ok machine.core.nextWord machine.core.fetched := by
    have word := Memory.fetch_eq_ok counterNonneg fetches.inside
    simp only [Core.fetch, Core.begun, word]
    rfl
  have indexFetched : 0 ≤ machine.core.fetched.memory.index := indexNonneg
  have unfolded :
      (Core.architecture readings).carryOut =
        (Core.fetch >>= fun word => Core.decode word >>= fun instruction =>
          instruction.execute readings.execution >>= fun _ =>
            (Core.architecture readings).finish >>= fun _ =>
              (Core.architecture readings).describe instruction) := rfl
  rw [unfolded]
  simp only [bind, EStateM.bind, read, Core.decode]
  cases Instruction.decode machine.core.nextWord with
  | error fault => rfl
  | ok instruction =>
      simp only [Instruction.execute_eq readings.execution indexFetched, Instruction.outcome]
      cases instruction.fault? readings.execution machine.core.fetched <;> rfl

theorem step_outside
    {machine : Machine} {readings : Readings}
    (ready : machine.core.runState ≠ .awaitingKey)
    (outside : Memory.reservedStart <
      machine.core.memory.programCounter + Memory.instructionSize) :
    machine.step readings =
      .error (.fetchOutside machine.core.memory.programCounter)
        ⟨machine.core.begun, machine.cycleCount⟩ := by
  rw [step_ready ready, carryOut_outside readings outside]

theorem conclude_eq
    (readings : Readings) (address : Int) (operation : Operation) (machine : Machine) :
    (Core.architecture readings).conclude address operation machine =
      match machine.core.view readings.snapshot with
      | .ok view =>
          .ok ⟨view, operation, machine.cycleCount + operation.cycles,
              Architecture.symbolOf address operation.text, machine.core.redraw⟩
            ⟨machine.core, machine.cycleCount + operation.cycles⟩
      | .error fault => .error fault ⟨machine.core, machine.cycleCount + operation.cycles⟩ := by
  have shown : (Core.architecture readings).view = Core.viewAction readings.snapshot := rfl
  simp only [Architecture.conclude, bind, EStateM.bind, Counted.addCycles, Counted.onCore, shown,
    Core.viewAction]
  cases machine.core.view readings.snapshot <;> rfl

/-- Every cycle ends in one of the seven ways. -/
theorem cycle_step
    {machine : Machine} (readings : Readings)
    (counterNonneg : 0 ≤ machine.core.memory.programCounter)
    (indexNonneg : 0 ≤ machine.core.memory.index) :
    machine.Cycle readings (machine.step readings) := by
  by_cases ready : machine.core.runState = .awaitingKey
  · rw [step_waiting ready]
    cases viewed : machine.core.view readings.snapshot with
    | ok view => exact .waited ready viewed
    | error fault => exact .waitedUnseen ready viewed
  by_cases inside : machine.core.memory.programCounter + Memory.instructionSize ≤
      Memory.reservedStart
  · have fetches : machine.core.Fetches := ⟨ready, inside⟩
    rw [step_ready ready, carryOut_fetched readings counterNonneg indexNonneg fetches]
    cases decoded : Instruction.decode machine.core.nextWord with
    | error fault => exact .undecoded fetches decoded
    | ok instruction =>
        have reaches : machine.core.Reaches instruction := ⟨fetches, decoded⟩
        cases met : instruction.fault? readings.execution machine.core.fetched with
        | some fault =>
            simp only [met]
            exact .refused reaches met
        | none =>
            simp only [met, conclude_eq]
            cases viewed : (machine.core.completed instruction readings.execution).view
                readings.snapshot with
            | ok view => exact .completed reaches met viewed
            | error fault => exact .unseen reaches met viewed
  · have beyond : Memory.reservedStart <
        machine.core.memory.programCounter + Memory.instructionSize := Int.not_le.mp inside
    rw [step_outside ready beyond]
    exact .outside ready beyond

end Machine

end Chip8
