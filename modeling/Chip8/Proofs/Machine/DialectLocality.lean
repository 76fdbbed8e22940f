import Chip8.Proofs.Machine.Twins
import Mathlib
/-!
Where dialects matter.  Machines of two dialects are made alike and operated
alike.  Until one of them carries out an instruction that is governed by a
choice in which the dialects differ, nobody can tell the machines apart: they
hold the same, fail in the same way and report the same, except that screens
of two sizes cannot be compared.
-/

namespace Chip8

open Numeric (Binary64)

theorem Random.Source.lockstep_eq : Lockstep Eq where
  byte same := same ▸ rfl
  next same := same ▸ rfl

namespace Machine

variable {leftDialect rightDialect : Dialect} {random : Random.Source} {now : Binary64}
  {left right : Machine}

/-- How two machines behave that differ in their dialects and are operated alike. -/
structure DialectLocality (left right : Machine) : Prop where
  /-- The machines agree after every run without an instruction that the dialects dispute. -/
  agrees : ∀ events, left.Undisputed right.core.dialect events →
    Twins Eq (left.run events) (right.run events)
  /-- The next operation fails for both in the same way, or reports the same for both. -/
  reports : ∀ events event, left.Undisputed right.core.dialect (events ++ [event]) →
    Outcomes Eq (Twins Eq) ((left.run events).perform event) ((right.run events).perform event)

/-- New machines of two dialects are twins. -/
theorem twins_of_create
    (leftCreated : create leftDialect random now = .ok left)
    (rightCreated : create rightDialect random now = .ok right) : Twins Eq left right := by
  obtain ⟨leftDisplay, leftMade, rfl⟩ := exists_of_create leftCreated
  obtain ⟨rightDisplay, rightMade, rfl⟩ := exists_of_create rightCreated
  have blank : leftDisplay.Alike rightDisplay := by
    rw [← Display.clear_of_create leftMade, ← Display.clear_of_create rightMade]
    exact Display.alike_clear leftDisplay rightDisplay
  exact ⟨⟨rfl, blank, rfl⟩, rfl⟩

/-- Dialects make a difference only through the instructions that they dispute. -/
theorem dialectLocality_of_create
    (leftCreated : create leftDialect random now = .ok left)
    (rightCreated : create rightDialect random now = .ok right) : left.DialectLocality right := by
  have twins := twins_of_create leftCreated rightCreated
  have leftReachable : left.Reachable := ⟨leftDialect, random, now, left, [], leftCreated, rfl⟩
  have rightReachable : right.Reachable :=
    ⟨rightDialect, random, now, right, [], rightCreated, rfl⟩
  refine ⟨?_, ?_⟩
  · intro events undisputed
    exact twins.run Random.Source.lockstep_eq leftReachable rightReachable undisputed
  · intro events event undisputed
    obtain ⟨before, last, -⟩ := throughout_append.mp undisputed
    have reached := twins.run Random.Source.lockstep_eq leftReachable rightReachable before
    refine reached.outcomes_perform Random.Source.lockstep_eq
      (reachable_run leftReachable events) (reachable_run rightReachable events) ?_
    rw [dialect_run rightReachable events]
    exact last

/-- A new machine of the classic dialect. -/
def unloadedClassic : Machine :=
  { unloaded with core := { unloaded.core with dialect := Mode.classic.dialect } }

/-- A glyph is drawn and a sum is taken, which the modern and the classic dialect do alike. -/
theorem dialectLocality_drawAndAdd :
    let events : List HostEvent :=
      [.load [0x60, 0x05, 0xD0, 0x05, 0x80, 0x04], .step (.still .zero), .step (.still .zero)]
    create Mode.modern.dialect (.scripted []) .zero = .ok unloaded ∧
      create Mode.classic.dialect (.scripted []) .zero = .ok unloadedClassic ∧
      unloaded.DialectLocality unloadedClassic ∧
      unloaded.Undisputed unloadedClassic.core.dialect (events ++ [.step (.still .zero)]) ∧
      Outcomes Eq (Twins Eq) ((unloaded.run events).perform (.step (.still .zero)))
        ((unloadedClassic.run events).perform (.step (.still .zero))) := by
  intro events
  have created : create Mode.classic.dialect (.scripted []) .zero = .ok unloadedClassic := rfl
  have undisputed :
      unloaded.Undisputed unloadedClassic.core.dialect (events ++ [.step (.still .zero)]) := by
    decide +kernel
  have locality := dialectLocality_of_create create_unloaded created
  exact ⟨create_unloaded, created, locality, undisputed, locality.reports events _ undisputed⟩

end Machine

end Chip8
