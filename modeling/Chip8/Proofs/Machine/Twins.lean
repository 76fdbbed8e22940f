import Chip8.Proofs.Instruction.Equipment
import Chip8.Proofs.Machine.Bounds
import Chip8.Proofs.Machine.InputRelation
import Mathlib
/-!
Machines that differ in their equipment only.  Their screens show the same if
they are of one size, and their sources give the same bytes.  As long as no
instruction is carried out that their dialects dispute, every operation of the
host has the same outcome for both, and they go on to differ in their equipment
only.
-/

namespace Chip8

open Numeric (Binary64)

/-- Two sources in this relation give the same byte, and are in this relation after it. -/
structure Random.Source.Lockstep (sources : Source → Source → Prop) : Prop where
  byte : ∀ {left right}, sources left right → right.next.1 = left.next.1
  next : ∀ {left right}, sources left right → sources left.next.2 right.next.2

/-- Two cores differ in their equipment only. -/
structure Core.Twins (sources : Random.Source → Random.Source → Prop) (left right : Core) :
    Prop where
  same : right = left.withEquipment right.equipment
  screens : left.display.Alike right.display
  sources : sources left.random right.random

namespace Core

variable {sources : Random.Source → Random.Source → Prop} {left right : Core}

theorem Twins.exists_equipment (twins : left.Twins sources right) :
    ∃ equipment : Equipment, right = left.withEquipment equipment ∧
      left.display.Alike equipment.display ∧ sources left.random equipment.random :=
  ⟨right.equipment, twins.same, twins.screens, twins.sources⟩

theorem Twins.withEquipment
    {equipment : Equipment} (screens : left.display.Alike equipment.display)
    (related : sources left.random equipment.random) :
    left.Twins sources (left.withEquipment equipment) :=
  ⟨rfl, screens, related⟩

theorem Twins.memory (twins : left.Twins sources right) : right.memory = left.memory := by
  rw [twins.same]
  rfl

theorem Twins.runState (twins : left.Twins sources right) : right.runState = left.runState := by
  rw [twins.same]
  rfl

theorem Twins.begun (twins : left.Twins sources right) : left.begun.Twins sources right.begun := by
  obtain ⟨equipment, rfl, screens, related⟩ := twins.exists_equipment
  exact .withEquipment screens related

theorem Twins.fetched (twins : left.Twins sources right) :
    left.fetched.Twins sources right.fetched := by
  obtain ⟨equipment, rfl, screens, related⟩ := twins.exists_equipment
  exact .withEquipment screens related

theorem Twins.residue (twins : left.Twins sources right) (instruction : Instruction) :
    (instruction.residue left).Twins sources (instruction.residue right) := by
  obtain ⟨stack, residue⟩ := instruction.residue_eq left
  rw [twins.same, Instruction.residue_withEquipment, residue]
  exact .withEquipment twins.screens twins.sources

theorem Twins.reset (twins : left.Twins sources right) (now : Binary64) :
    (left.reset now).Twins sources (right.reset now) := by
  obtain ⟨equipment, rfl, screens, related⟩ := twins.exists_equipment
  unfold Core.reset
  exact ⟨rfl, Display.alike_clear left.display equipment.display, related⟩

/-- Equipment suits an instruction that the dialects do not dispute. -/
theorem Twins.suits
    (lockstep : Random.Source.Lockstep sources) (twins : left.Twins sources right)
    (leftBuilt : left.BuiltFor left.dialect) (rightBuilt : right.BuiltFor right.dialect)
    {instruction : Instruction}
    (undisputed : ¬ left.dialect.Disputes right.dialect instruction.opcode) :
    instruction.Suits left.fetched right.equipment where
  undisputed := undisputed
  screens := twins.screens
  sizes := by
    intro draws
    have agrees := Dialect.agrees_of_not_disputes undisputed
    have width : left.dialect.displayWidth.value = right.dialect.displayWidth.value :=
      agrees .screenWidth (by simp [draws, Dialect.Choice.governed])
    have height : left.dialect.displayHeight.value = right.dialect.displayHeight.value :=
      agrees .screenHeight (by simp [draws, Dialect.Choice.governed])
    constructor
    · calc right.display.width
          _ = right.dialect.displayWidth.count := congrArg Length.count rightBuilt.width
          _ = left.dialect.displayWidth.count := congrArg Int.toNat width.symm
          _ = left.display.width := congrArg Length.count leftBuilt.width.symm
    · calc right.display.height
          _ = right.dialect.displayHeight.count := congrArg Length.count rightBuilt.height
          _ = left.dialect.displayHeight.count := congrArg Int.toNat height.symm
          _ = left.display.height := congrArg Length.count leftBuilt.height.symm
  bytes := lockstep.byte twins.sources

theorem Twins.completed
    (lockstep : Random.Source.Lockstep sources) (twins : left.Twins sources right)
    {instruction : Instruction} (suits : instruction.Suits left.fetched right.equipment)
    (now : Binary64) :
    (left.completed instruction now).Twins sources (right.completed instruction now) := by
  obtain ⟨equipment, rfl, screens, related⟩ := twins.exists_equipment
  refine ⟨?_, Instruction.nextDisplay_withEquipment suits, ?_⟩
  · have effect := Instruction.effect_withEquipment suits now
    exact congrArg (fun core : Core => { core with sound := (instruction.nextSound left).decrease })
      effect
  · have drawn : sources (instruction.nextRandom left.fetched)
        (instruction.nextRandom (left.fetched.withEquipment equipment)) := by
      unfold Instruction.nextRandom
      cases instruction.opcode
      case random => exact lockstep.next related
      all_goals exact related
    exact drawn

end Core

namespace Machine

variable {sources : Random.Source → Random.Source → Prop} {left right leftNext rightNext : Machine}
  {event : HostEvent} {events : List HostEvent} {readings : Readings}

/-- Two machines differ in their equipment only. -/
structure Twins (sources : Random.Source → Random.Source → Prop) (left right : Machine) :
    Prop where
  core : left.core.Twins sources right.core
  cycleCount : right.cycleCount = left.cycleCount

/-- The operation is not a cycle with an instruction that the dialects dispute. -/
def UndisputedAt (other : Dialect) (machine : Machine) : HostEvent → Prop
  | .step _ => ∀ instruction ∈ machine.core.executed?,
      ¬ machine.core.dialect.Disputes other instruction.opcode
  | .load _ | .key _ _ | .runState _ | .reset _ => True

instance decidableUndisputedAt (other : Dialect) (machine : Machine) (event : HostEvent) :
    Decidable (UndisputedAt other machine event) :=
  match event with
  | .step _ => inferInstanceAs (Decidable (∀ instruction ∈ machine.core.executed?,
      ¬ machine.core.dialect.Disputes other instruction.opcode))
  | .load _ | .key _ _ | .runState _ | .reset _ => .isTrue trivial

/-- No cycle of a run meets an instruction that the dialects dispute. -/
def Undisputed (machine : Machine) (other : Dialect) (events : List HostEvent) : Prop :=
  machine.Throughout (UndisputedAt other) events

instance decidableUndisputed (machine : Machine) (other : Dialect) (events : List HostEvent) :
    Decidable (machine.Undisputed other events) :=
  inferInstanceAs (Decidable (machine.Throughout _ events))

/-- Twins that are shown at one time look the same. -/
theorem Twins.outcomes_shown
    (twins : left.Twins sources right) (next : leftNext.Twins sources rightNext) (now : Binary64)
    (snapshot : RegisterView → Snapshot RegisterView) :
    Outcomes Eq (Twins sources)
      (match left.core.view now with
        | .ok view => .ok (snapshot view) leftNext
        | .error fault => .error fault leftNext)
      (match right.core.view now with
        | .ok view => .ok (snapshot view) rightNext
        | .error fault => .error fault rightNext) := by
  have same : right.core.view now = left.core.view now := by
    rw [twins.core.same]
    rfl
  rw [same]
  cases left.core.view now with
  | ok view => exact .ok rfl next
  | error fault => exact .error next

theorem Twins.exists_equipment (twins : left.Twins sources right) :
    ∃ equipment : Equipment, right = ⟨left.core.withEquipment equipment, left.cycleCount⟩ ∧
      left.core.display.Alike equipment.display ∧ sources left.core.random equipment.random := by
  obtain ⟨equipment, same, related⟩ := twins.core.exists_equipment
  refine ⟨equipment, ?_, related⟩
  rw [← same, ← twins.cycleCount]

section

variable (lockstep : Random.Source.Lockstep sources) (twins : left.Twins sources right)
  (leftReachable : left.Reachable) (rightReachable : right.Reachable)

include lockstep twins leftReachable rightReachable

/-- What a cycle does with a word is the same for twins, unless the dialects dispute it. -/
theorem Twins.outcomes_carryOut
    (ready : left.core.runState ≠ .awaitingKey)
    (undisputed : left.UndisputedAt right.core.dialect (.step readings)) :
    Outcomes Eq (Core.Twins sources)
      ((Core.architecture readings).carryOut left.core.begun)
      ((Core.architecture readings).carryOut right.core.begun) := by
  have leftFormed := wellFormed_of_reachable leftReachable
  have rightFormed := wellFormed_of_reachable rightReachable
  have memory := twins.core.memory
  by_cases inside : left.core.memory.programCounter + Memory.instructionSize ≤ Memory.reservedStart
  case neg =>
    have beyond : Memory.reservedStart <
        left.core.memory.programCounter + Memory.instructionSize := Int.not_le.mp inside
    rw [carryOut_outside readings beyond, carryOut_outside readings (memory ▸ beyond), memory]
    exact .error twins.core.begun
  have leftFetches : left.core.Fetches := ⟨ready, inside⟩
  have rightFetches : right.core.Fetches := ⟨twins.core.runState ▸ ready, memory ▸ inside⟩
  have word : right.core.nextWord = left.core.nextWord := by
    rw [Core.nextWord, memory]
    rfl
  rw [carryOut_fetched readings leftFormed.counterNonneg leftFormed.indexNonneg leftFetches,
    carryOut_fetched readings rightFormed.counterNonneg rightFormed.indexNonneg rightFetches, word]
  cases decoded : Instruction.decode left.core.nextWord with
  | error fault => exact .error twins.core.fetched
  | ok instruction =>
      have executed := Core.executed?_of_reaches leftFormed.counterNonneg
        (⟨leftFetches, decoded⟩ : left.core.Reaches instruction)
      have suits := twins.core.suits lockstep (builtFor_of_reachable leftReachable)
        (builtFor_of_reachable rightReachable) (undisputed instruction executed)
      have refused : instruction.fault? readings.execution right.core.fetched =
          instruction.fault? readings.execution left.core.fetched := by
        rw [twins.core.fetched.same]
        exact Instruction.fault?_withEquipment suits readings.execution
      -- so far nothing depends on the equipment, and what follows only as far as it suits
      simp only [refused]
      cases met : instruction.fault? readings.execution left.core.fetched with
      | some fault => exact .error (twins.core.fetched.residue instruction)
      | none =>
          exact .ok (Instruction.operation_withEquipment suits).symm
            (twins.core.completed lockstep suits readings.execution)

/-- A cycle without a disputed instruction has the same outcome for twins. -/
theorem Twins.outcomes_step
    (undisputed : left.UndisputedAt right.core.dialect (.step readings)) :
    Outcomes Eq (Twins sources) (left.step readings) (right.step readings) := by
  have memory := twins.core.memory
  have state := twins.core.runState
  by_cases awaiting : left.core.runState = .awaitingKey
  · have begun : Twins sources ⟨left.core.begun, left.cycleCount⟩
        ⟨right.core.begun, right.cycleCount⟩ := ⟨twins.core.begun, twins.cycleCount⟩
    have snapshots : right.waitSnapshot = left.waitSnapshot := by
      funext view
      rw [waitSnapshot, waitSnapshot, memory, twins.cycleCount]
    rw [step_waiting awaiting, step_waiting (state.trans awaiting), snapshots]
    exact twins.outcomes_shown begun readings.snapshot left.waitSnapshot
  · have ready : right.core.runState ≠ .awaitingKey := state ▸ awaiting
    rw [step_ready awaiting, step_ready ready]
    have carriedOut := twins.outcomes_carryOut lockstep leftReachable rightReachable awaiting
      undisputed
    generalize (Core.architecture readings).carryOut left.core.begun = leftResult at carriedOut ⊢
    generalize (Core.architecture readings).carryOut right.core.begun = rightResult
      at carriedOut ⊢
    cases carriedOut with
    | error next => exact .error ⟨next, twins.cycleCount⟩
    | @ok operation _ leftCore rightCore sameOperation next =>
        subst sameOperation
        have redraw : rightCore.redraw = leftCore.redraw := by
          rw [next.same]
          rfl
        have counted : Twins sources ⟨leftCore, left.cycleCount + operation.cycles⟩
            ⟨rightCore, left.cycleCount + operation.cycles⟩ := ⟨next, rfl⟩
        simp only [conclude_eq, memory, twins.cycleCount, redraw]
        exact counted.outcomes_shown counted readings.snapshot _

/-- An operation without a disputed instruction has the same outcome for twins. -/
theorem Twins.outcomes_perform
    (undisputed : left.UndisputedAt right.core.dialect event) :
    Outcomes Eq (Twins sources) (left.perform event) (right.perform event) := by
  cases event with
  | step readings =>
      have outcomes := twins.outcomes_step lockstep leftReachable rightReachable undisputed
      rw [perform_step, perform_step]
      generalize left.step readings = leftResult at outcomes ⊢
      generalize right.step readings = rightResult at outcomes ⊢
      cases outcomes with
      | ok same next => exact .ok (congrArg some same) next
      | error next => exact .error next
  | load program =>
      obtain ⟨equipment, rfl, screens, related⟩ := twins.exists_equipment
      have memory : (left.core.withEquipment equipment).memory = left.core.memory := rfl
      rw [perform_load, perform_load, memory]
      cases left.core.memory.load program with
      | error fault => exact .error twins
      | ok memory => exact .ok rfl ⟨⟨rfl, screens, related⟩, rfl⟩
  | key key pressed =>
      obtain ⟨equipment, rfl, screens, related⟩ := twins.exists_equipment
      have keypad : (left.core.withEquipment equipment).keypad = left.core.keypad := rfl
      rw [perform_key, perform_key, keypad]
      cases left.core.keypad.set key pressed with
      | error fault => exact .error twins
      | ok keypad => exact .ok rfl ⟨⟨rfl, screens, related⟩, rfl⟩
  | runState state =>
      obtain ⟨equipment, rfl, screens, related⟩ := twins.exists_equipment
      exact .ok rfl ⟨⟨rfl, screens, related⟩, rfl⟩
  | reset now => exact .ok rfl ⟨twins.core.reset now, rfl⟩

/-- Twins stay twins as long as no instruction is carried out that their dialects dispute. -/
theorem Twins.run
    (undisputed : left.Undisputed right.core.dialect events) :
    (left.run events).Twins sources (right.run events) := by
  induction events generalizing left right with
  | nil => exact twins
  | cons event events inductionHypothesis =>
      have outcomes := twins.outcomes_perform lockstep leftReachable rightReachable undisputed.1
      refine inductionHypothesis (related_of_outcomes outcomes)
        (reachable_after leftReachable event) (reachable_after rightReachable event) ?_
      rw [dialect_after rightReachable event]
      exact undisputed.2

end

end Machine

end Chip8
