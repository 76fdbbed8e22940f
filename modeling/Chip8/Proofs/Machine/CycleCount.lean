import Chip8.Proofs.Cycle.Count
import Chip8.Proofs.Instruction.Decoding
import Chip8.Proofs.Machine.CallReturn
import Mathlib
/-!
The cycle count and the sound timer of a run.  Every cycle that carries out an
instruction adds one to the count and takes one from the timer, and nothing
else but a reset changes either of them.  So a tone lasts for a number of
cycles, whatever the clock says.
-/

namespace Chip8

open Numeric (Binary64)

namespace Machine

/-- The operation is a cycle that returns, and that does not find the machine waiting for a key. -/
def completes (machine : Machine) : HostEvent → Bool
  | .step readings =>
      decide (machine.core.runState ≠ .awaitingKey) && succeeded (machine.step readings)
  | .load _ | .key _ _ | .runState _ | .reset _ => false

/-- The number of cycles that a run completes. -/
def completedIn (machine : Machine) : List HostEvent → Nat
  | [] => 0
  | event :: events => (machine.completes event).toNat + (machine.after event).completedIn events

/-- The number of cycles that a run has completed since the last reset. -/
def completedSinceReset (machine : Machine) (events : List HostEvent) : Nat :=
  (machine.run (untilLast HostEvent.isReset events)).completedIn
    (sinceLast HostEvent.isReset events)

/-- The operation is a cycle that sets the sound timer. -/
def setsTone (machine : Machine) (event : HostEvent) : Bool :=
  machine.completes event && decide (Opcode.setSound.Matches machine.core.nextWord)

/-- The value to which the next word sets the sound timer, if it does. -/
def toneValue (machine : Machine) : Nat :=
  machine.core.operandX machine.core.nextWord

/-- No operation of a run sets the sound timer. -/
def Untoned (machine : Machine) (events : List HostEvent) : Prop :=
  machine.Throughout (fun current event => current.setsTone event = false) events

variable {machine start : Machine} {event : HostEvent} {events : List HostEvent}

/-- What an operation other than a reset does to the cycle count and the sound timer. -/
inductive Account (machine : Machine) (event : HostEvent) : Prop where
  | idle :
      machine.completes event = false →
      (machine.after event).cycleCount = machine.cycleCount →
      (machine.after event).core.sound = machine.core.sound →
      Account machine event
  | completed :
      machine.completes event = true →
      (machine.after event).cycleCount = machine.cycleCount + 1 →
      (machine.setsTone event = true → 2 ≤ machine.toneValue) →
      (machine.after event).core.sound.value.toNat =
        (if machine.setsTone event then machine.toneValue
          else machine.core.sound.value.toNat) - 1 →
      Account machine event

theorem account_of_accepted
    {readings : Readings} {instruction : Instruction} {snapshot : Snapshot RegisterView}
    {after : Machine} (reaches : machine.core.Reaches instruction)
    (accepted : instruction.fault? readings.execution machine.core.fetched = none)
    (footprint : machine.Footprint instruction after)
    (stepped : machine.step readings = .ok snapshot after) :
    machine.Account (.step readings) := by
  have left : machine.after (.step readings) = after := after_of_step stepped
  have completes : machine.completes (.step readings) = true := by
    simp [Machine.completes, reaches.ready, stepped, succeeded]
  obtain ⟨matched, fields⟩ := Instruction.decode_eq_ok_iff.mp reaches.decoded
  have value : machine.toneValue = (instruction.valueX machine.core).toNat := by
    rw [fields]
    rfl
  have sets : machine.setsTone (.step readings) = true ↔ instruction.opcode = .setSound := by
    rw [setsTone, completes, Bool.true_and, decide_eq_true_iff]
    exact ⟨Opcode.eq_of_matches matched, fun opcode => opcode ▸ matched⟩
  refine .completed completes ?_ ?_ ?_
  · rw [left]
    exact footprint.cycleCount
  · intro set
    have long : ¬ (instruction.valueX machine.core.fetched).toNat < 2 := by
      intro short
      simp [Instruction.fault?, sets.mp set, short] at accepted
    rw [value]
    exact Nat.not_lt.mp long
  · rw [left, footprint.sound, value]
    simp only [sets, apply_ite UInt8.toNat]

theorem account_step
    {readings : Readings} (wellFormed : machine.core.WellFormed)
    (clock : machine.core.ClockDefined readings) : machine.Account (.step readings) := by
  cases stepped : machine.step readings with
  | error fault after =>
      have residue := leftByFault_of_error wellFormed clock stepped
      have left : machine.after (.step readings) = after := after_of_step stepped
      refine .idle ?_ ?_ ?_
      · simp [completes, stepped, succeeded]
      · rw [left]
        exact residue.cycleCount
      · rw [left]
        exact residue.sound
  | ok snapshot after =>
      have cycle := cycle_of_wellFormed wellFormed readings
      have left : machine.after (.step readings) = after := after_of_step stepped
      rw [stepped] at cycle
      cases cycle with
      | waited awaiting =>
          refine .idle ?_ ?_ ?_
          · simp [completes, awaiting]
          · rw [left]
          · rw [left]
            rfl
      | completed reaches accepted =>
          exact account_of_accepted reaches accepted
            (footprint_completed wellFormed reaches accepted) stepped

theorem account_after
    (wellFormed : machine.core.WellFormed) (clock : machine.ClockedAt event)
    (goesOn : event.isReset = false) : machine.Account event := by
  cases event with
  | step readings => exact account_step wellFormed clock
  | reset now => cases goesOn
  | load program =>
      obtain ⟨ram, left⟩ := machine.after_load program
      refine .idle rfl ?_ ?_ <;> rw [left]
  | key key pressed =>
      obtain ⟨keypad, left⟩ := machine.after_key key pressed
      refine .idle rfl ?_ ?_ <;> rw [left]
  | runState state => exact .idle rfl rfl rfl

theorem cycleCount_snapshot
    {readings : Readings} {snapshot : Snapshot RegisterView} {after : Machine}
    (wellFormed : machine.core.WellFormed)
    (stepped : machine.step readings = .ok snapshot after) :
    snapshot.cycleCount = after.cycleCount := by
  have cycle := cycle_of_wellFormed wellFormed readings
  rw [stepped] at cycle
  cases cycle with
  | waited => rfl
  | completed => rfl

theorem GoesOn.first
    (goesOn : machine.GoesOn (event :: events)) :
    machine.ClockedAt event ∧ event.isReset = false :=
  ⟨goesOn.clocked.1, goesOn.noReset event List.mem_cons_self⟩

theorem GoesOn.rest
    (goesOn : machine.GoesOn (event :: events)) : (machine.after event).GoesOn events where
  noReset later membership := goesOn.noReset later (List.mem_cons_of_mem event membership)
  clocked := goesOn.clocked.2

theorem cycleCount_run
    (wellFormed : machine.core.WellFormed) (goesOn : machine.GoesOn events) :
    (machine.run events).cycleCount = machine.cycleCount + machine.completedIn events := by
  induction events generalizing machine with
  | nil => exact (Int.add_zero _).symm
  | cons event events inductionHypothesis =>
      obtain ⟨clock, noReset⟩ := goesOn.first
      have rest := inductionHypothesis (wellFormed_after event wellFormed) goesOn.rest
      rw [run_cons, rest, completedIn]
      cases account_after wellFormed clock noReset with
      | idle completes counted => rw [counted, completes, Bool.toNat_false, Nat.zero_add]
      | completed completes counted =>
          rw [counted, completes, Bool.toNat_true, Nat.cast_add, Nat.cast_one, Int.add_assoc]

/-- While nothing sets it, the sound timer goes down with the completed cycles. -/
theorem sound_run
    (wellFormed : machine.core.WellFormed) (goesOn : machine.GoesOn events)
    (untoned : machine.Untoned events) :
    (machine.run events).core.sound.value.toNat =
      machine.core.sound.value.toNat - machine.completedIn events := by
  induction events generalizing machine with
  | nil => rfl
  | cons event events inductionHypothesis =>
      obtain ⟨clock, noReset⟩ := goesOn.first
      obtain ⟨unset, untonedRest⟩ := untoned
      have rest :=
        inductionHypothesis (wellFormed_after event wellFormed) goesOn.rest untonedRest
      rw [run_cons, rest, completedIn]
      cases account_after wellFormed clock noReset with
      | idle completes counted kept => rw [kept, completes, Bool.toNat_false, Nat.zero_add]
      | completed completes counted long lowered =>
          rw [lowered, unset, completes, Bool.toNat_true, if_neg Bool.false_ne_true, Nat.sub_sub]

/-- The cycle that sets the sound timer is the first that it goes down with. -/
theorem sound_run_of_setsTone
    (wellFormed : machine.core.WellFormed) (goesOn : machine.GoesOn (event :: events))
    (set : machine.setsTone event = true) (untoned : (machine.after event).Untoned events) :
    2 ≤ machine.toneValue ∧ machine.completes event = true ∧
      (machine.run (event :: events)).core.sound.value.toNat =
        machine.toneValue - machine.completedIn (event :: events) := by
  obtain ⟨clock, noReset⟩ := goesOn.first
  have rest := sound_run (wellFormed_after event wellFormed) goesOn.rest untoned
  cases account_after wellFormed clock noReset with
  | idle completes => simp [setsTone, completes] at set
  | completed completes counted long lowered =>
      refine ⟨long set, completes, ?_⟩
      rw [run_cons, rest, lowered, if_pos set, completedIn, completes, Bool.toNat_true,
        Nat.sub_sub]

theorem run_sinceLast (start : Machine) (events : List HostEvent) :
    (start.run (untilLast HostEvent.isReset events)).run (sinceLast HostEvent.isReset events) =
      start.run events := by
  rw [← run_append, untilLast_append_sinceLast]

theorem goesOn_sinceLast (clocked : start.Clocked events) :
    (start.run (untilLast HostEvent.isReset events)).GoesOn
      (sinceLast HostEvent.isReset events) where
  noReset event membership := unmarked_of_mem_sinceLast membership
  clocked := by
    rw [← untilLast_append_sinceLast HostEvent.isReset events] at clocked
    exact (throughout_append.mp clocked).2

variable {dialect : Dialect} {random : Random.Source} {now : Binary64}

/-- At the last reset, or else at the start, the count is zero and the sound timer silent. -/
theorem run_untilLast
    (created : create dialect random now = .ok start) (events : List HostEvent) :
    (start.run (untilLast HostEvent.isReset events)).cycleCount = 0 ∧
      (start.run (untilLast HostEvent.isReset events)).core.sound = .silent := by
  rcases untilLast_cases HostEvent.isReset events with empty | ⟨earlier, mark, last, isReset⟩
  · obtain ⟨display, -, rfl⟩ := exists_of_create created
    rw [empty]
    exact ⟨rfl, rfl⟩
  · rw [last, run_append]
    cases mark with
    | reset now => exact ⟨rfl, rfl⟩
    | _ => cases isReset

theorem cycleCount_eq_completedSinceReset
    (created : create dialect random now = .ok start) (clocked : start.Clocked events) :
    (start.run events).cycleCount = start.completedSinceReset events := by
  have wellFormed := wellFormed_run created (untilLast HostEvent.isReset events)
  have counted := cycleCount_run wellFormed (goesOn_sinceLast clocked)
  rw [run_sinceLast, (run_untilLast created events).1, Int.zero_add] at counted
  exact counted

theorem isReset_of_setsTone (set : machine.setsTone event = true) : event.isReset = false := by
  cases event with
  | reset now => cases set
  | _ => rfl

/-- The account of the cycles of a run. -/
structure CycleAccounting (start : Machine) (events : List HostEvent) : Prop where
  /-- The cycle count is the number of cycles completed since the last reset. -/
  count : (start.run events).cycleCount = start.completedSinceReset events
  /-- A snapshot shows the count with its own cycle, also while the machine waits. -/
  shown : ∀ before readings snapshot after, events = before ++ [.step readings] →
    (start.run before).step readings = .ok snapshot after →
    snapshot.cycleCount = start.completedSinceReset events
  /-- Apart from resets only completed cycles change the count or the sound timer. -/
  idle : ∀ before event, events = before ++ [event] → event.isReset = false →
    (start.run before).completes event = false →
    (start.run events).cycleCount = (start.run before).cycleCount ∧
      (start.run events).core.sound = (start.run before).core.sound
  /-- The sound timer is silent if nothing has set it since the last reset. -/
  silent : (start.run (untilLast HostEvent.isReset events)).Untoned
      (sinceLast HostEvent.isReset events) →
    (start.run events).core.sound = .silent
  /-- Otherwise it counts the completed cycles down from the value to which it was set last. -/
  tone : ∀ before event passed, events = before ++ event :: passed →
    (start.run before).setsTone event = true →
    ((start.run before).after event).Untoned passed →
    (∀ later ∈ passed, later.isReset = false) →
    2 ≤ (start.run before).toneValue ∧ (start.run before).toneValue ≤ 255 ∧
      (start.run events).core.sound.value.toNat =
        (start.run before).toneValue - (start.run before).completedIn (event :: passed) ∧
      ((start.run events).core.sound.isActive = true ↔
        ((start.run before).after event).completedIn passed < (start.run before).toneValue - 1)

theorem cycleAccounting_of_create
    (created : create dialect random now = .ok start) (clocked : start.Clocked events) :
    start.CycleAccounting events where
  count := cycleCount_eq_completedSinceReset created clocked
  shown := by
    rintro before readings snapshot after rfl stepped
    have left : start.run (before ++ [.step readings]) = after := by
      rw [run_append]
      exact after_of_step stepped
    rw [cycleCount_snapshot (wellFormed_run created before) stepped, ← left]
    exact cycleCount_eq_completedSinceReset created clocked
  idle := by
    rintro before event rfl noReset idle
    have clock : (start.run before).ClockedAt event := (throughout_append.mp clocked).2.1
    rw [run_append]
    cases account_after (wellFormed_run created before) clock noReset with
    | idle _ counted kept => exact ⟨counted, kept⟩
    | completed completes =>
        rw [idle] at completes
        cases completes
  silent := by
    intro untoned
    have wellFormed := wellFormed_run created (untilLast HostEvent.isReset events)
    have lowered := sound_run wellFormed (goesOn_sinceLast clocked) untoned
    rw [run_sinceLast, (run_untilLast created events).2] at lowered
    exact (SoundTimer.toNat_eq_zero_iff _).mp (lowered.trans (Nat.zero_sub _))
  tone := by
    rintro before event passed rfl set untoned noReset
    have goesOn : (start.run before).GoesOn (event :: passed) := by
      refine ⟨List.forall_mem_cons.mpr ⟨isReset_of_setsTone set, noReset⟩, ?_⟩
      exact (throughout_append.mp clocked).2
    obtain ⟨long, completes, lowered⟩ :=
      sound_run_of_setsTone (wellFormed_run created before) goesOn set untoned
    rw [run_append]
    refine ⟨long, Nat.le_of_lt_succ (UInt8.toNat_lt _), lowered, ?_⟩
    -- the setting cycle itself takes one from the value
    rw [SoundTimer.isActive_iff, lowered, completedIn, completes, Bool.toNat_true]
    omega

/--
The cycle count of a machine is the number of its completed cycles, and the
sound timer goes down with it.  The cycle count of any architecture is the sum
of the cycles of the operations that it describes.
-/
theorem cycle_accounting :
    (∀ {dialect random now start events}, create dialect random now = .ok start →
      start.Clocked events → start.CycleAccounting events) ∧
    ∀ {Problem Core Decoded View : Type} (start : Counted Core)
      (turns : List (Turn Problem Core Decoded View)), start.cycleCount = 0 →
      (∀ turn ∈ turns, turn.Shows) → start.CountLaw turns :=
  ⟨cycleAccounting_of_create, fun _ _ begins shows => Counted.countLaw_of_shows begins shows⟩

/-- A tone of three cycles is set, and one more cycle is carried out. -/
def toneAndLoop : List HostEvent :=
  [.load [0x60, 0x03, 0xF0, 0x18, 0x12, 0x04], .step (.still .zero), .step (.still .zero),
    .step (.still .zero)]

/-- A processor that walks over two bytes, of which the table below knows the first. -/
def pairWalker : Counted (TableProcessor (.number 2)) :=
  ⟨⟨⟨#v[0x01, 0x02]⟩, 0, false⟩, 0⟩

def pairWalk : List (Turn Fault (TableProcessor (.number 2)) Int CounterView) :=
  let architecture := TableProcessor.architecture [⟨"01", "INC", [], 3⟩]
  [.cycle architecture, .cycle architecture, .cycle architecture]

theorem shows_pairWalk : ∀ turn ∈ pairWalk, turn.Shows := by
  simpa [pairWalk, Turn.Shows] using TableProcessor.shows_architecture _

/-- The tone has one cycle left, and the last cycle of the other processor finds no byte. -/
theorem cycle_accounting_toneAndLoop :
    unloaded.Clocked toneAndLoop ∧ unloaded.CycleAccounting toneAndLoop ∧
      (unloaded.run toneAndLoop).cycleCount = 3 ∧
      (unloaded.run toneAndLoop).core.sound.value.toNat = 1 ∧
      pairWalker.CountLaw pairWalk ∧ (pairWalker.afterTurns pairWalk).cycleCount = 4 := by
  have clocked : unloaded.Clocked toneAndLoop :=
    clocked_still (wellFormed_run create_unloaded []) rfl (by decide)
  have accounting := cycle_accounting.1 create_unloaded clocked
  have law := cycle_accounting.2 pairWalker pairWalk rfl shows_pairWalk
  let before : List HostEvent :=
    [.load [0x60, 0x03, 0xF0, 0x18, 0x12, 0x04], .step (.still .zero)]
  let cycle := HostEvent.step (.still .zero)
  obtain ⟨three, set, unset, left⟩ : unloaded.completedSinceReset toneAndLoop = 3 ∧
      (unloaded.run before).setsTone cycle = true ∧
      ((unloaded.run before).after cycle).setsTone cycle = false ∧
      (unloaded.run before).toneValue - (unloaded.run before).completedIn [cycle, cycle] = 1 := by
    decide +kernel
  obtain ⟨-, -, lowered, -⟩ :=
    accounting.tone before cycle [cycle] rfl set ⟨unset, trivial⟩ (by decide)
  refine ⟨clocked, accounting, ?_, lowered.trans left, law, ?_⟩
  · rw [accounting.count, three]
    rfl
  · rw [law.total]
    decide +kernel

end Machine

end Chip8
