import Chip8.Proofs.Machine.Clock
import Chip8.Proofs.Machine.Invariant
import Mathlib
/-!
The clock in a run.  The delay timer only remembers times at which the clock
has been read, so it is enough that the ticks can be counted between any two
readings of a run.
-/

namespace Chip8

open Numeric (Binary64)
open DelayTimer (TicksDefined)

/-- The readings of the clock that come with an operation. -/
def HostEvent.clockReadings : HostEvent → List Binary64
  | .step readings => [readings.execution, readings.snapshot]
  | .reset now => [now]
  | .load _ | .key _ _ | .runState _ => []

namespace Machine

/-- If the operation is a cycle, the ticks can be counted in it. -/
def ClockedAt (machine : Machine) : HostEvent → Prop
  | .step readings => machine.core.ClockDefined readings
  | .load _ | .key _ _ | .runState _ | .reset _ => True

/-- The ticks can be counted in every cycle of a run. -/
def Clocked (machine : Machine) (events : List HostEvent) : Prop :=
  machine.Throughout ClockedAt events

variable {machine : Machine}

/-- An accepted instruction gives a snapshot if the ticks can be counted. -/
theorem step_of_accepted
    {readings : Readings} {instruction : Instruction}
    (wellFormed : machine.core.WellFormed) (clock : machine.core.ClockDefined readings)
    (reaches : machine.core.Reaches instruction)
    (accepted : instruction.fault? readings.execution machine.core.fetched = none) :
    ∃ snapshot, machine.step readings = .ok snapshot
      ⟨machine.core.completed instruction readings.execution, machine.cycleCount + 1⟩ := by
  obtain ⟨view, viewed⟩ := Core.view_completed clock instruction
  rw [step_ready reaches.ready, carryOut_fetched readings wellFormed.counterNonneg
    wellFormed.indexNonneg reaches.toFetches, reaches.decoded]
  simp only [accepted, conclude_eq, viewed]
  exact ⟨_, rfl⟩

theorem reference_cycle
    {readings : Readings} {result : EStateM.Result Fault Machine (Snapshot RegisterView)}
    (clock : machine.core.ClockDefined readings) (cycle : machine.Cycle readings result) :
    (stateOf result).core.delay.reference = machine.core.delay.reference ∨
      (stateOf result).core.delay.reference = readings.execution := by
  cases cycle with
  | @refused instruction =>
      obtain ⟨stack, same⟩ := instruction.residue_eq machine.core.fetched
      left
      rw [stateOf, same]
      rfl
  | @completed instruction => exact Core.reference_completed clock instruction
  | @unseen instruction => exact Core.reference_completed clock instruction
  | _ => exact .inl rfl

theorem reference_after
    (wellFormed : machine.core.WellFormed) {event : HostEvent} (clock : machine.ClockedAt event) :
    (machine.after event).core.delay.reference = machine.core.delay.reference ∨
      (machine.after event).core.delay.reference ∈ event.clockReadings := by
  rcases machine.after_cases event with
    ⟨now, rfl, left⟩ | ⟨readings, rfl, left⟩ | ⟨ram, keypad, runState, left⟩
  · rw [left]
    exact .inr (List.mem_singleton_self now)
  · rw [left]
    rcases reference_cycle clock (cycle_of_wellFormed wellFormed readings) with same | moved
    · exact .inl same
    · exact .inr (moved ▸ List.mem_cons_self)
  · rw [left]
    exact .inl rfl

/-- The ticks can be counted in a run if they can between any two of its readings. -/
theorem clocked_of_readings
    (times : Set Binary64)
    (defined : ∀ first ∈ times, ∀ second ∈ times, TicksDefined first second)
    (wellFormed : machine.core.WellFormed) (started : machine.core.delay.reference ∈ times)
    {events : List HostEvent}
    (read : ∀ event ∈ events, ∀ time ∈ event.clockReadings, time ∈ times) :
    machine.Clocked events := by
  -- the reference time of the delay timer stays among the times
  induction events generalizing machine with
  | nil => trivial
  | cons event events inductionHypothesis =>
      have reads := read event List.mem_cons_self
      have clock : machine.ClockedAt event := by
        cases event with
        | step readings =>
            have execution := reads readings.execution List.mem_cons_self
            have snapshot := reads readings.snapshot (List.mem_cons_of_mem _ List.mem_cons_self)
            exact ⟨defined _ started _ execution, defined _ started _ snapshot,
              defined _ execution _ snapshot⟩
        | _ => trivial
      refine ⟨clock, inductionHypothesis (wellFormed_after event wellFormed) ?_ ?_⟩
      · rcases reference_after wellFormed clock with same | moved
        · rw [same]
          exact started
        · exact reads _ moved
      · intro later membership
        exact read later (List.mem_cons_of_mem event membership)

theorem clocked_still
    {negative : Bool} {significand : Nat} {exponent : Int}
    (wellFormed : machine.core.WellFormed)
    (stands : machine.core.delay.reference = .finite negative significand exponent)
    {events : List HostEvent}
    (read : ∀ event ∈ events, ∀ time ∈ event.clockReadings,
      time = .finite negative significand exponent) :
    machine.Clocked events := by
  have defined := DelayTimer.ticks_self negative significand exponent
  refine clocked_of_readings {.finite negative significand exponent} ?_ wellFormed stands read
  rintro first rfl second rfl
  exact ⟨0, defined⟩

end Machine

end Chip8
