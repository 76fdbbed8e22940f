import Chip8.Proofs.Machine.Twins
import Mathlib
/-!
A reset as a rebirth.  Whatever a machine has gone through, a reset makes it a
new machine of its dialect, except that its source of random bytes goes on
where it is.  Beside a new machine whose source gives the same bytes from
there on, it has the same outcomes forever.
-/

namespace Chip8

open Numeric (Binary64)

namespace Random.Source

/-- Two sources give the same bytes, however many are drawn. -/
def SameBytes (left right : Source) : Prop :=
  ∀ count, right.draw count = left.draw count

theorem lockstep_sameBytes : Lockstep SameBytes where
  byte {left right} same := by
    have first : [right.next.1] = [left.next.1] := same 1
    exact List.head_eq_of_cons_eq first
  next {left right} same := by
    intro count
    have more : right.next.1 :: right.next.2.draw count =
        left.next.1 :: left.next.2.draw count := same (count + 1)
    exact List.tail_eq_of_cons_eq more

end Random.Source

theorem Display.eq_of_alike
    {left right : Display} (alike : left.Alike right)
    (askedWidth : right.askedWidth = left.askedWidth)
    (askedHeight : right.askedHeight = left.askedHeight) : right = left := by
  have cells : right.cells = left.cells :=
    alike (congrArg Length.count askedWidth) (congrArg Length.count askedHeight)
  cases left
  cases right
  cases askedWidth
  cases askedHeight
  cases cells
  rfl

namespace Machine

variable {left right machine : Machine} {now : Binary64}

/-- A machine that takes its random bytes from another source. -/
def withRandom (machine : Machine) (random : Random.Source) : Machine :=
  { machine with core := { machine.core with random } }

theorem twins_withRandom {random : Random.Source} (bytes : machine.core.random.SameBytes random) :
    Twins Random.Source.SameBytes machine (machine.withRandom random) :=
  ⟨⟨rfl, fun _ _ => rfl, bytes⟩, rfl⟩

/-- Two machines are the same but for their sources, which give the same bytes. -/
structure AgreeButRandom (left right : Machine) : Prop where
  same : right = left.withRandom right.core.random
  bytes : left.core.random.SameBytes right.core.random

/-- Twins of one dialect differ in their sources only. -/
theorem agreeButRandom_of_twins
    (twins : Twins Random.Source.SameBytes left right) (leftReachable : left.Reachable)
    (rightReachable : right.Reachable) (dialect : right.core.dialect = left.core.dialect) :
    left.AgreeButRandom right := by
  have leftBuilt := builtFor_of_reachable leftReachable
  have rightBuilt := builtFor_of_reachable rightReachable
  rw [dialect] at rightBuilt
  -- screens made for one dialect are of one size, so to be alike is to be the same
  have display : right.core.display = left.core.display :=
    Display.eq_of_alike twins.core.screens (rightBuilt.width.trans leftBuilt.width.symm)
      (rightBuilt.height.trans leftBuilt.height.symm)
  refine ⟨?_, twins.core.sources⟩
  have core : right.core = { left.core with random := right.core.random } := by
    rw [twins.core.same, Core.withEquipment, Core.equipment, dialect, display]
  calc right
    _ = ⟨right.core, left.cycleCount⟩ := by rw [← twins.cycleCount]
    _ = left.withRandom right.core.random := congrArg (Counted.mk · left.cycleCount) core

/-- No instruction is disputed between a dialect and itself. -/
theorem undisputed_self (reachable : machine.Reachable) (events : List HostEvent) :
    machine.Undisputed machine.core.dialect events := by
  induction events generalizing machine with
  | nil => trivial
  | cons event events inductionHypothesis =>
      refine ⟨?_, ?_⟩
      · cases event with
        | step readings => exact fun instruction _ => Dialect.not_disputes_self _ _
        | _ => trivial
      · rw [← dialect_after reachable event]
        exact inductionHypothesis (reachable_after reachable event)

theorem random_reset (machine : Machine) (now : Binary64) :
    (machine.reset now).core.random = machine.core.random := by
  unfold reset Core.reset
  rfl

theorem reset_reset (machine : Machine) (now : Binary64) :
    (machine.reset now).reset now = machine.reset now := by
  unfold reset Core.reset
  rfl

/-- Everything is as at the start of a machine. -/
structure Fresh (machine : Machine) (now : Binary64) : Prop where
  /-- There is nothing in the cells but the glyphs. -/
  cells : ∀ address, 0 ≤ address → machine.core.memory.byteAt address =
    if 0x50 ≤ address ∧ address < 0xA0 then Memory.glyphs.getD (address - 0x50).toNat 0 else 0
  counter : machine.core.memory.programCounter = 0x200
  index : machine.core.memory.index = 0x50
  registers : machine.core.registers.values = Array.replicate 16 0
  stack : machine.core.stack.frames = []
  delay : machine.core.delay = ⟨0, now⟩
  sound : machine.core.sound.value = 0
  keys : ∀ key : Fin 16, machine.core.keypad.keys[key] = false
  screen : ∀ place, machine.core.display.isLit place = false
  runState : machine.core.runState = .running
  redraw : machine.core.redraw = true
  cycleCount : machine.cycleCount = 0

theorem byteAt_initial {address : Int} (nonneg : 0 ≤ address) :
    Memory.initial.byteAt address =
      if 0x50 ≤ address ∧ address < 0xA0 then Memory.glyphs.getD (address - 0x50).toNat 0
      else 0 := by
  have inside : (0x50 : Int) + Memory.glyphs.length ≤ (Length.number Memory.cellCount).count := by
    decide
  have written := Ram.blank.byteAt_overwriteAt (by decide) inside nonneg
  rw [Ram.byteAt_blank] at written
  exact written

theorem fresh_reset (machine : Machine) (now : Binary64) : (machine.reset now).Fresh now where
  cells _ nonneg := byteAt_initial nonneg
  counter := rfl
  index := rfl
  registers := rfl
  stack := rfl
  delay := rfl
  sound := rfl
  keys key := by simp [reset, Core.reset, Keypad.released]
  screen place := machine.core.display.isLit_clear place
  runState := rfl
  redraw := rfl
  cycleCount := rfl

/-- A new machine is as it would be after a reset. -/
theorem reset_of_create
    {dialect : Dialect} {random : Random.Source}
    (created : create dialect random now = .ok machine) :
    machine.reset now = machine := by
  obtain ⟨display, made, rfl⟩ := exists_of_create created
  have blank : (Core.initial dialect display random now).display.clear = display :=
    Display.clear_of_create made
  simp only [reset, Core.reset, blank]
  rfl

theorem fresh_of_create
    {dialect : Dialect} {random : Random.Source}
    (created : create dialect random now = .ok machine) :
    machine.Fresh now :=
  reset_of_create created ▸ fresh_reset machine now

/-- A reset makes a new machine of any reachable one, but for the random bytes. -/
structure Rebirth (machine : Machine) (now : Binary64) : Prop where
  /-- A new machine with the same source of random bytes is the same machine. -/
  created : ∀ random, create machine.core.dialect random now =
    .ok ((machine.reset now).withRandom random)
  random : (machine.reset now).core.random = machine.core.random
  fresh : (machine.reset now).Fresh now
  /-- With the same random bytes nobody can tell the two machines apart afterwards. -/
  continues : ∀ random start, machine.core.random.SameBytes random →
    create machine.core.dialect random now = .ok start →
    ∀ events, AgreeButRandom ((machine.reset now).run events) (start.run events) ∧
      ∀ event, Outcomes Eq AgreeButRandom
        (((machine.reset now).run events).perform event) ((start.run events).perform event)
  idempotent : (machine.reset now).reset now = machine.reset now

theorem create_of_reachable
    (reachable : machine.Reachable) (now : Binary64) (random : Random.Source) :
    create machine.core.dialect random now = .ok ((machine.reset now).withRandom random) := by
  obtain ⟨dialect, source, time, start, events, created, rfl⟩ := reachable
  have built := builtFor_run created events
  have cleared := clear_run created events
  obtain ⟨display, made, rfl⟩ := exists_of_create created
  -- the run may have drawn anything, but what it clears to is what it began with
  have blank : (Core.initial dialect display source time).display.clear = display :=
    Display.clear_of_create made
  rw [blank] at cleared
  simp only [create, built.dialect, made, withRandom, reset, Core.reset, cleared]
  rfl

/-- With the same random bytes the source makes no difference to the outcomes. -/
theorem agreeButRandom_run
    {random : Random.Source} (bytes : machine.core.random.SameBytes random)
    (reachable : machine.Reachable) (otherReachable : (machine.withRandom random).Reachable)
    (events : List HostEvent) :
    AgreeButRandom (machine.run events) ((machine.withRandom random).run events) ∧
      ∀ event, Outcomes Eq AgreeButRandom ((machine.run events).perform event)
        (((machine.withRandom random).run events).perform event) := by
  have reached := reachable_run reachable events
  have otherReached := reachable_run otherReachable events
  have twins := (twins_withRandom bytes).run Random.Source.lockstep_sameBytes reachable
    otherReachable (undisputed_self reachable events)
  have dialect : ((machine.withRandom random).run events).core.dialect =
      (machine.run events).core.dialect :=
    (dialect_run otherReachable events).trans (dialect_run reachable events).symm
  refine ⟨agreeButRandom_of_twins twins reached otherReached dialect, ?_⟩
  intro event
  have undisputed : (machine.run events).UndisputedAt
      ((machine.withRandom random).run events).core.dialect event := by
    rw [dialect]
    exact (undisputed_self reached [event]).1
  have outcomes := twins.outcomes_perform Random.Source.lockstep_sameBytes reached otherReached
    undisputed
  refine outcomes_of_states outcomes fun next => ?_
  refine agreeButRandom_of_twins next (reachable_after reached event)
    (reachable_after otherReached event) ?_
  exact (dialect_after otherReached event).trans (dialect.trans (dialect_after reached event).symm)

/-- A reset is a rebirth. -/
theorem rebirth_of_reachable (reachable : machine.Reachable) (now : Binary64) :
    machine.Rebirth now := by
  refine ⟨create_of_reachable reachable now, random_reset machine now, fresh_reset machine now,
    ?_, reset_reset machine now⟩
  intro random start bytes created
  have same : start = (machine.reset now).withRandom random :=
    Except.ok.inj (created.symm.trans (create_of_reachable reachable now random))
  subst same
  rw [← random_reset machine now] at bytes
  exact agreeButRandom_run bytes (reachable_after reachable (.reset now))
    ⟨machine.core.dialect, random, now, _, [], created, run_nil _⟩

/-- A machine that waits for a key is reset while the host still holds one down. -/
theorem rebirth_awaitingKey :
    let machine := unloaded.run
      [.load [0xF0, 0x0A], .step (.still .zero), .key 5 true]
    machine.Reachable ∧ machine.core.runState = .awaitingKey ∧ machine.Rebirth .zero := by
  intro machine
  have reachable : machine.Reachable := reachable_run_unloaded _
  exact ⟨reachable, by decide +kernel, rebirth_of_reachable reachable .zero⟩

end Machine

end Chip8
