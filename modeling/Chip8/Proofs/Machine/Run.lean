import Chip8.Machine.Host
import Mathlib
/-!
Runs of a machine under a host.  An operation that fails leaves a machine as
well, and the host may go on with it; so every operation has a machine after
it, and a run is any list of operations.
-/

namespace Chip8

open Numeric (Binary64)

theorem Memory.exists_of_load
    {memory loaded : Memory} {program : List Int}
    (success : memory.load program = .ok loaded) :
    ∃ ram, loaded = { memory with ram } := by
  unfold load at success
  split at success
  · cases success
  cases written : memory.ram.writeBlock programStart program with
  | ok ram =>
      rw [written] at success
      cases success
      exact ⟨ram, rfl⟩
  | error fault =>
      rw [written] at success
      cases success

namespace Machine

/-- The state that an action leaves, whether it fails or not. -/
def stateOf {Result : Type} : EStateM.Result Fault Machine Result → Machine
  | .ok _ next => next
  | .error _ next => next

/-- Whether an action has not failed. -/
def succeeded {Result : Type} : EStateM.Result Fault Machine Result → Bool
  | .ok _ _ => true
  | .error _ _ => false

/-- The machine after an operation of the host. -/
def after (machine : Machine) (event : HostEvent) : Machine :=
  stateOf (machine.perform event)

/-- The machine after a list of operations. -/
def run (machine : Machine) (events : List HostEvent) : Machine :=
  events.foldl after machine

@[simp]
theorem run_nil (machine : Machine) : machine.run [] = machine := rfl

theorem run_cons (machine : Machine) (event : HostEvent) (events : List HostEvent) :
    machine.run (event :: events) = (machine.after event).run events := rfl

@[simp]
theorem run_append (machine : Machine) (events further : List HostEvent) :
    machine.run (events ++ further) = (machine.run events).run further :=
  List.foldl_append

/-- A condition on a machine and the operation before it holds at every operation of a run. -/
def Throughout (condition : Machine → HostEvent → Prop) (machine : Machine) :
    List HostEvent → Prop
  | [] => True
  | event :: events =>
      condition machine event ∧ (machine.after event).Throughout condition events

instance decidableThroughout
    (condition : Machine → HostEvent → Prop) [∀ machine event, Decidable (condition machine event)]
    (machine : Machine) (events : List HostEvent) :
    Decidable (machine.Throughout condition events) :=
  match events with
  | [] => .isTrue trivial
  | event :: rest =>
      have := decidableThroughout condition (machine.after event) rest
      inferInstanceAs (Decidable (_ ∧ _))

theorem throughout_append
    {condition : Machine → HostEvent → Prop} {machine : Machine} {events further : List HostEvent} :
    machine.Throughout condition (events ++ further) ↔
      machine.Throughout condition events ∧
        (machine.run events).Throughout condition further := by
  induction events generalizing machine with
  | nil => exact (iff_of_eq (true_and _)).symm
  | cons event events inductionHypothesis =>
      rw [List.cons_append, Throughout, Throughout, inductionHypothesis, and_assoc]
      rfl

/-- Some host has made this machine and operated it until now. -/
def Reachable (machine : Machine) : Prop :=
  ∃ (dialect : Dialect) (random : Random.Source) (now : Binary64) (start : Machine)
    (events : List HostEvent), create dialect random now = .ok start ∧ start.run events = machine

theorem reachable_after
    {machine : Machine} (reachable : machine.Reachable) (event : HostEvent) :
    (machine.after event).Reachable := by
  obtain ⟨dialect, random, now, start, events, created, rfl⟩ := reachable
  exact ⟨dialect, random, now, start, events ++ [event], created, run_append start events [event]⟩

theorem reachable_run
    {machine : Machine} (reachable : machine.Reachable) (events : List HostEvent) :
    (machine.run events).Reachable := by
  obtain ⟨dialect, random, now, start, before, created, rfl⟩ := reachable
  exact ⟨dialect, random, now, start, before ++ events, created, run_append start before events⟩

/-- What holds of new machines and is kept by every operation holds of reachable machines. -/
theorem reachable_induction
    {motive : Machine → Prop}
    (created : ∀ {dialect random now start}, create dialect random now = .ok start →
      motive start)
    (kept : ∀ {machine} event, motive machine → motive (machine.after event))
    {machine : Machine} (reachable : machine.Reachable) : motive machine := by
  obtain ⟨dialect, random, now, start, events, made, rfl⟩ := reachable
  induction events using List.reverseRecOn with
  | nil => exact created made
  | append_singleton events event inductionHypothesis =>
      rw [run_append]
      exact kept event inductionHypothesis

/-- A new machine of the modern dialect, which finds only zeros where its program should be. -/
def unloaded : Machine where
  core := Core.initial Mode.modern.dialect
    { askedWidth := .number 64
      askedHeight := .number 32
      cells := Array.replicate 2048 false
      width_pos := by decide
      height_pos := by decide
      size_eq := by rw [Array.size_replicate]; rfl }
    (.scripted []) .zero
  cycleCount := 0

theorem create_unloaded :
    create Mode.modern.dialect (.scripted []) .zero = .ok unloaded := rfl

theorem reachable_run_unloaded (events : List HostEvent) : (unloaded.run events).Reachable :=
  ⟨Mode.modern.dialect, .scripted [], .zero, unloaded, events, create_unloaded, rfl⟩

variable (machine : Machine)

/-- A program that cannot be loaded leaves the machine as it was. -/
theorem perform_load (program : List Int) :
    machine.perform (.load program) =
      match machine.core.memory.load program with
      | .ok memory => .ok none { machine with core := { machine.core with memory } }
      | .error fault => .error fault machine := by
  simp only [perform, change, Counted.onCore, attempt, Core.tryMemory, bind, EStateM.bind,
    Except.bind]
  cases machine.core.memory.load program <;> rfl

/-- A number that names no key leaves the machine as it was. -/
theorem perform_key (key : Int) (pressed : Bool) :
    machine.perform (.key key pressed) =
      match machine.core.keypad.set key pressed with
      | .ok keypad => .ok none { machine with core := { machine.core with keypad } }
      | .error fault => .error fault machine := by
  simp only [perform, change, Counted.onCore, attempt, bind, EStateM.bind, Except.bind]
  cases machine.core.keypad.set key pressed <;> rfl

theorem perform_step (readings : Readings) :
    machine.perform (.step readings) =
      match machine.step readings with
      | .ok snapshot next => .ok (some snapshot) next
      | .error fault next => .error fault next := by
  simp only [perform, bind, EStateM.bind]
  cases machine.step readings <;> rfl

theorem stateOf_bind_pure
    {First Second : Type} (action : EStateM Fault Machine First) (result : First → Second) :
    stateOf ((action >>= fun first => pure (result first)) machine) = stateOf (action machine) := by
  simp only [bind, EStateM.bind]
  cases action machine <;> rfl

/-- A cycle leaves the machine that its step leaves. -/
theorem after_step (readings : Readings) :
    machine.after (.step readings) = stateOf (machine.step readings) :=
  machine.stateOf_bind_pure (step readings) some

theorem after_of_step
    {machine : Machine} {readings : Readings}
    {result : EStateM.Result Fault Machine (Snapshot RegisterView)}
    (stepped : machine.step readings = result) :
    machine.after (.step readings) = stateOf result := by
  rw [after_step, stepped]

/-- It makes no difference to the machine whether only the redraw mark is wanted. -/
theorem stateOf_executeCycle (readings : Readings) :
    stateOf (machine.executeCycle readings) = machine.after (.step readings) := by
  rw [after_step]
  exact machine.stateOf_bind_pure (step readings) (·.redraw)

/-- Pressing and releasing keys changes nothing but the keypad. -/
theorem after_key (key : Int) (pressed : Bool) :
    ∃ keypad, machine.after (.key key pressed) =
      { machine with core := { machine.core with keypad } } := by
  rw [after, perform_key]
  cases machine.core.keypad.set key pressed with
  | ok keypad => exact ⟨keypad, rfl⟩
  | error fault => exact ⟨machine.core.keypad, rfl⟩

/-- Loading a program changes nothing but the cells. -/
theorem after_load (program : List Int) :
    ∃ ram, machine.after (.load program) =
      { machine with
        core := { machine.core with memory := { machine.core.memory with ram } } } := by
  rw [after, perform_load]
  cases loaded : machine.core.memory.load program with
  | ok memory =>
      obtain ⟨ram, rfl⟩ := Memory.exists_of_load loaded
      exact ⟨ram, rfl⟩
  | error fault => exact ⟨machine.core.memory.ram, rfl⟩

/-- An operation is a reset or a cycle, or it changes cells, keys and the run state only. -/
theorem after_cases (event : HostEvent) :
    (∃ now, event = .reset now ∧ machine.after event = machine.reset now) ∨
    (∃ readings, event = .step readings ∧
      machine.after event = stateOf (machine.step readings)) ∨
    ∃ ram keypad runState, machine.after event =
      { machine with
        core := { machine.core with
          memory := { machine.core.memory with ram }
          keypad := keypad
          runState := runState } } := by
  cases event with
  | load program =>
      obtain ⟨ram, loaded⟩ := machine.after_load program
      exact .inr (.inr ⟨ram, machine.core.keypad, machine.core.runState, loaded⟩)
  | key key pressed =>
      obtain ⟨keypad, changed⟩ := machine.after_key key pressed
      exact .inr (.inr ⟨machine.core.memory.ram, keypad, machine.core.runState, changed⟩)
  | runState state =>
      exact .inr (.inr ⟨machine.core.memory.ram, machine.core.keypad, state, rfl⟩)
  | reset now => exact .inl ⟨now, rfl, rfl⟩
  | step readings => exact .inr (.inl ⟨readings, rfl, machine.after_step readings⟩)

end Machine

end Chip8
