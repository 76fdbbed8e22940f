import Chip8.Proofs.Machine.Cycle
import Mathlib
/-!
The clock in a cycle.  The ticks between two readings cannot always be counted,
since a reading may be infinite or no number at all.  On readings where they
can, reading the delay timer never fails and never raises its value, and a
machine can always be shown.
-/

namespace Chip8

open Numeric (Binary64)

namespace DelayTimer

/-- The ticks from one reading of the clock to another can be counted. -/
def TicksDefined (reference now : Binary64) : Prop :=
  ∃ count, ticks reference now = .ok count

/-- No tick passes while the clock stands still at a number. -/
theorem ticks_self (negative : Bool) (significand : Nat) (exponent : Int) :
    ticks (.finite negative significand exponent) (.finite negative significand exponent) =
      .ok 0 := by
  have cancelled : Binary64.signed negative significand * Nat.pow 2 (exponent - exponent).toNat +
      Binary64.signed (!negative) significand * Nat.pow 2 (exponent - exponent).toNat = 0 := by
    cases negative <;> simp [Binary64.signed]
  have elapsed : (Binary64.finite negative significand exponent).sub
      (.finite negative significand exponent) = .zero := by
    simp only [Binary64.sub, Binary64.neg, Binary64.add, min_self, if_pos cancelled,
      Bool.and_not_self, Binary64.zero]
  have scaled : Binary64.zero.scale ticksPerSecond = .zero := by
    simp [Binary64.scale, Binary64.zero, Numeric.scaleFraction, Binary64.round]
  have none : Binary64.zero.truncate? = some 0 := by
    simp [Binary64.truncate?, Binary64.zero, Numeric.scaleFraction, Binary64.signed]
  simp only [ticks, elapsed, scaled, none]

/-- The timer at present has lost some ticks, and its reference time is the old or the new one. -/
theorem load_of_ticksDefined
    {timer : DelayTimer} {now : Binary64} (defined : TicksDefined timer.reference now) :
    ∃ present, timer.load now = .ok present ∧ present.value ≤ timer.value ∧
      (present.reference = timer.reference ∨ present.reference = now) := by
  obtain ⟨count, counted⟩ := defined
  unfold load
  by_cases stopped : timer.value = 0
  · rw [if_pos stopped]
    exact ⟨timer, rfl, UInt8.le_refl _, .inl rfl⟩
  rw [if_neg stopped]
  simp only [project, counted, bind, Except.bind, pure, Except.pure]
  by_cases early : count ≤ 0
  · rw [if_pos early]
    exact ⟨_, rfl, UInt8.le_of_eq (Word.lowByte_toNat timer.value), .inl rfl⟩
  · rw [if_neg early]
    refine ⟨_, rfl, ?_, .inr rfl⟩
    have small := timer.value.toNat_lt
    have byte := Word.toNat_lowByte (max ((timer.value.toNat : Int) - count) 0)
    rw [UInt8.le_iff_toNat_le]
    simp only
    omega

theorem peek_of_ticksDefined
    {timer : DelayTimer} {now : Binary64} (defined : TicksDefined timer.reference now) :
    ∃ value, timer.peek now = .ok value ∧ value ≤ timer.value := by
  obtain ⟨present, loaded, lower, -⟩ := load_of_ticksDefined defined
  exact ⟨present.value, by rw [peek, loaded]; rfl, lower⟩

end DelayTimer

namespace Core

open DelayTimer (TicksDefined)

/-- The ticks can be counted between all times that a cycle of a machine compares. -/
structure ClockDefined (core : Core) (readings : Readings) : Prop where
  toExecution : TicksDefined core.delay.reference readings.execution
  toSnapshot : TicksDefined core.delay.reference readings.snapshot
  between : TicksDefined readings.execution readings.snapshot

/-- The ticks can be counted if the clock has always stood at the same number. -/
theorem clockDefined_still
    {core : Core} {negative : Bool} {significand : Nat} {exponent : Int}
    (stands : core.delay.reference = .finite negative significand exponent) :
    core.ClockDefined (.still (.finite negative significand exponent)) := by
  have defined := DelayTimer.ticks_self negative significand exponent
  exact ⟨⟨0, stands ▸ defined⟩, ⟨0, stands ▸ defined⟩, ⟨0, defined⟩⟩

theorem view_of_ticksDefined
    {core : Core} {now : Binary64} (defined : TicksDefined core.delay.reference now) :
    ∃ view, core.view now = .ok view := by
  obtain ⟨value, peeked, -⟩ := DelayTimer.peek_of_ticksDefined defined
  simp only [view, peeked]
  exact ⟨_, rfl⟩

variable {core : Core} {readings : Readings}

/-- An instruction only moves the reference time to the time of its execution. -/
theorem reference_completed
    (clock : core.ClockDefined readings) (instruction : Instruction) :
    (core.completed instruction readings.execution).delay.reference = core.delay.reference ∨
      (core.completed instruction readings.execution).delay.reference = readings.execution := by
  have same : (core.completed instruction readings.execution).delay =
      instruction.nextDelay readings.execution core.fetched := rfl
  rw [same]
  unfold Instruction.nextDelay
  cases instruction.opcode
  case readDelay =>
    obtain ⟨present, loaded, -, reference⟩ := DelayTimer.load_of_ticksDefined clock.toExecution
    have same : core.fetched.delay.loaded readings.execution = present := by
      have delay : core.fetched.delay = core.delay := rfl
      rw [DelayTimer.loaded, delay, loaded]
    simp only [same]
    exact reference
  case setDelay => exact .inr rfl
  all_goals exact .inl rfl

theorem view_completed
    (clock : core.ClockDefined readings) (instruction : Instruction) :
    ∃ view, (core.completed instruction readings.execution).view readings.snapshot = .ok view := by
  apply view_of_ticksDefined
  rcases reference_completed clock instruction with same | moved
  · rw [same]
    exact clock.toSnapshot
  · rw [moved]
    exact clock.between

end Core

end Chip8
