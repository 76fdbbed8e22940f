import Chip8.Proofs.Machine.Refusal
import Mathlib
/-!
When a cycle fails.  A machine that does not wait for a key fails in one of two
ways: the word at the program counter does not lie in the program area, or
there is a cause to refuse the word.
-/

namespace Chip8

open Numeric (Binary64)

namespace Machine

/-- A cycle fails with this fault. -/
def Raises (machine : Machine) (readings : Readings) (fault : Fault) : Prop :=
  ∃ after, machine.step readings = .error fault after

variable {machine : Machine} {readings : Readings}

theorem raises_of_beyond
    (ready : machine.core.runState ≠ .awaitingKey)
    (beyond : 0xE9F ≤ machine.core.memory.programCounter) :
    machine.Raises readings (.fetchOutside machine.core.memory.programCounter) :=
  ⟨_, step_outside ready (Core.outside_of_le beyond)⟩

/-- A cause to refuse the word is enough for the cycle to fail. -/
theorem raises_of_holds
    (wellFormed : machine.core.WellFormed) (fetches : machine.core.Fetches)
    {cause : RefusalCause} (holds : cause.Holds machine.core machine.core.nextWord) :
    machine.Raises readings (cause.fault machine.core machine.core.nextWord) := by
  rw [Raises, step_ready fetches.ready,
    carryOut_fetched readings wellFormed.counterNonneg wellFormed.indexNonneg fetches]
  cases decoded : Instruction.decode machine.core.nextWord with
  | error fault =>
      obtain ⟨unmatched, rfl⟩ := Instruction.decode_eq_error_iff.mp decoded
      have unknown : RefusalCause.noInstruction.Holds machine.core machine.core.nextWord :=
        unmatched
      cases Instruction.cause_unique holds unknown
      exact ⟨_, rfl⟩
  | ok instruction =>
      have refused := Instruction.cause?_of_holds decoded holds
      have timed (reads : instruction.opcode = .readDelay) :
          DelayTimer.TicksDefined machine.core.delay.reference readings.execution := by
        simp only [Instruction.cause?, reads, reduceCtorEq] at refused
      have met := Instruction.fault?_fetched wellFormed timed decoded
      rw [refused, Option.map_some] at met
      simp only [met]
      exact ⟨_, rfl⟩

/-- If the ticks can be counted, there is no other way for the cycle to fail. -/
theorem holds_of_raises
    (wellFormed : machine.core.WellFormed) (fetches : machine.core.Fetches)
    (clock : machine.core.ClockDefined readings) {fault : Fault}
    (raises : machine.Raises readings fault) :
    ∃ cause : RefusalCause, cause.Holds machine.core machine.core.nextWord ∧
      fault = cause.fault machine.core machine.core.nextWord := by
  obtain ⟨after, raised⟩ := raises
  have cycle := cycle_of_wellFormed wellFormed readings
  rw [raised] at cycle
  cases cycle with
  | waitedUnseen awaiting => exact absurd awaiting fetches.ready
  | outside _ beyond => exact absurd fetches.inside (Int.not_le.mpr beyond)
  | undecoded _ decoded =>
      obtain ⟨unmatched, rfl⟩ := Instruction.decode_eq_error_iff.mp decoded
      exact ⟨.noInstruction, unmatched, rfl⟩
  | refused reaches met =>
      rw [Instruction.fault?_fetched wellFormed (fun _ => clock.toExecution) reaches.decoded] at met
      obtain ⟨cause, refused, rfl⟩ := Option.map_eq_some_iff.mp met
      exact ⟨cause, Instruction.holds_of_cause? wellFormed.shallow reaches.decoded refused, rfl⟩
  | @unseen instruction _ _ _ unviewed =>
      obtain ⟨view, viewed⟩ := Core.view_completed clock instruction
      rw [viewed] at unviewed
      cases unviewed

/-- The fault law for one cycle of a machine that does not wait for a key. -/
structure FaultLaw (machine : Machine) (readings : Readings) : Prop where
  /-- There is no word to fetch behind `0xE9E`. -/
  beyond : 0xE9F ≤ machine.core.memory.programCounter →
    ∃ fault, machine.Raises readings fault ∧ fault.kind = .addressRange
  /-- A cause that holds makes the cycle fail with its own fault. -/
  caused : machine.core.memory.programCounter ≤ 0xE9E →
    ∀ cause : RefusalCause, cause.Holds machine.core machine.core.nextWord →
      ∃ fault, machine.Raises readings fault ∧ fault.kind = cause.kind ∧
        (fault.kind.specialises .machine = true ↔ cause ≠ .keyNumber ∧ cause ≠ .shortTone) ∧
        fault = cause.fault machine.core machine.core.nextWord
  /-- If the ticks can be counted, the cycle fails exactly when some cause holds. -/
  complete : machine.core.memory.programCounter ≤ 0xE9E → machine.core.ClockDefined readings →
    ((∃ fault, machine.Raises readings fault) ↔
      ∃ cause : RefusalCause, cause.Holds machine.core machine.core.nextWord)
  /-- No two causes hold at once. -/
  exclusive : ∀ first second : RefusalCause, first.Holds machine.core machine.core.nextWord →
    second.Holds machine.core machine.core.nextWord → first = second

/-- Every machine that can be reached obeys the fault law. -/
theorem faultLaw_of_reachable
    (reachable : machine.Reachable) (ready : machine.core.runState ≠ .awaitingKey)
    (readings : Readings) :
    machine.FaultLaw readings := by
  have wellFormed := wellFormed_of_reachable reachable
  refine ⟨?_, ?_, ?_, ?_⟩
  · intro beyond
    exact ⟨_, raises_of_beyond ready beyond, rfl⟩
  · intro inside cause holds
    have fetches := Core.fetches_of_le ready inside
    have kind := cause.kind_fault machine.core machine.core.nextWord
    refine ⟨_, raises_of_holds wellFormed fetches holds, kind, ?_, rfl⟩
    rw [kind]
    exact cause.specialises_machine_iff
  · intro inside clock
    have fetches := Core.fetches_of_le ready inside
    constructor
    · rintro ⟨fault, raises⟩
      obtain ⟨cause, holds, -⟩ := holds_of_raises wellFormed fetches clock raises
      exact ⟨cause, holds⟩
    · rintro ⟨cause, holds⟩
      exact ⟨_, raises_of_holds wellFormed fetches holds⟩
  · intro first second firstHolds secondHolds
    exact Instruction.cause_unique firstHolds secondHolds

/-- A machine without a program can be reached, and its clock can be counted. -/
theorem faultLaw_unloaded :
    (unloaded.run []).Reachable ∧ (unloaded.run []).core.runState ≠ .awaitingKey ∧
      (unloaded.run []).core.memory.programCounter ≤ 0xE9E ∧
      (unloaded.run []).core.ClockDefined (.still .zero) ∧
      (unloaded.run []).FaultLaw (.still .zero) :=
  ⟨reachable_run_unloaded [], by decide, by decide, Core.clockDefined_still rfl,
    faultLaw_of_reachable (reachable_run_unloaded []) (by decide) (.still .zero)⟩

end Machine

end Chip8
