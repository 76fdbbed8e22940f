import Chip8.Proofs.Machine.Bounds
import Chip8.Proofs.Machine.ClockedRun
import Chip8.Proofs.Machine.Footprint
import Chip8.Proofs.Machine.Residue
import Mathlib
/-!
The picture of a host that copies the screen exactly when a cycle tells it to
draw.  A reset clears the screen, but the redraw mark that it sets is cleared
again before any cycle can report it.  So the picture agrees with the screen
until a reset, and from the next report on, but not in between, unless there
was nothing to be seen.
-/

namespace Chip8

open Numeric (Binary64)

namespace Machine

/-- The operation is a cycle that tells the host to draw. -/
def reports (machine : Machine) : HostEvent → Bool
  | .step readings =>
      match machine.executeCycle readings with
      | .ok redraw _ => redraw
      | .error _ _ => false
  | .load _ | .key _ _ | .runState _ | .reset _ => false

/-- The picture of a host that copies the screen exactly when it is told to. -/
def pictureAfter (machine : Machine) (picture : Display) : List HostEvent → Display
  | [] => picture
  | event :: events =>
      let next := machine.after event
      next.pictureAfter (if machine.reports event then next.core.display else picture) events

/-- No operation of a run tells the host to draw. -/
def Silent (machine : Machine) (events : List HostEvent) : Prop :=
  machine.Throughout (fun current event => current.reports event = false) events

/-- There was a reset, and no cycle has told the host to draw since then. -/
def ResetUnseen (machine : Machine) (events : List HostEvent) : Prop :=
  ∃ before now passed, events = before ++ .reset now :: passed ∧
    ((machine.run before).reset now).Silent passed

variable {machine start : Machine} {picture : Display} {events : List HostEvent}

theorem pictureAfter_append (further : List HostEvent) :
    machine.pictureAfter picture (events ++ further) =
      (machine.run events).pictureAfter (machine.pictureAfter picture events) further := by
  induction events generalizing machine picture with
  | nil => rfl
  | cons event events inductionHypothesis => exact inductionHypothesis

theorem pictureAfter_of_silent (silent : machine.Silent events) :
    machine.pictureAfter picture events = picture := by
  induction events generalizing machine with
  | nil => rfl
  | cons event events inductionHypothesis =>
      obtain ⟨unreported, silentRest⟩ := silent
      rw [pictureAfter, unreported]
      exact inductionHypothesis silentRest

theorem reports_step (readings : Readings) :
    machine.reports (.step readings) =
      match machine.step readings with
      | .ok snapshot _ => snapshot.redraw
      | .error _ _ => false := by
  simp only [reports, executeCycle, bind, EStateM.bind]
  cases machine.step readings <;> rfl

theorem display_step_of_unreported
    {readings : Readings} (wellFormed : machine.core.WellFormed)
    (clock : machine.core.ClockDefined readings)
    (unreported : machine.reports (.step readings) = false) :
    (machine.after (.step readings)).core.display = machine.core.display := by
  rw [reports_step] at unreported
  rw [after_step]
  cases stepped : machine.step readings with
  | error fault after => exact (leftByFault_of_error wellFormed clock stepped).display
  | ok snapshot after =>
      have cycle := cycle_of_wellFormed wellFormed readings
      rw [stepped] at cycle unreported
      cases cycle with
      | waited => rfl
      | completed reaches accepted =>
          have other := mt (Instruction.nextRedraw_iff rfl).mpr (Bool.not_eq_true _ ▸ unreported)
          exact (footprint_completed wellFormed reaches accepted).display other

theorem display_after_of_unreported
    (wellFormed : machine.core.WellFormed) {event : HostEvent} (clock : machine.ClockedAt event)
    (unreported : machine.reports event = false) :
    (machine.after event).core.display = machine.core.display ∨
      (∃ now, event = .reset now) ∧
        (machine.after event).core.display = machine.core.display.clear := by
  rcases machine.after_cases event with
    ⟨now, rfl, left⟩ | ⟨readings, rfl, left⟩ | ⟨ram, keypad, runState, left⟩
  · rw [left]
    exact .inr ⟨⟨now, rfl⟩, rfl⟩
  · exact .inl (display_step_of_unreported wellFormed clock unreported)
  · rw [left]
    exact .inl rfl

theorem blank_run_of_silent
    (wellFormed : machine.core.WellFormed) (clocked : machine.Clocked events)
    (silent : machine.Silent events)
    (blank : machine.core.display.clear = machine.core.display) :
    (machine.run events).core.display.clear = (machine.run events).core.display := by
  induction events generalizing machine with
  | nil => exact blank
  | cons event events inductionHypothesis =>
      refine inductionHypothesis (wellFormed_after event wellFormed) clocked.2 silent.2 ?_
      rcases display_after_of_unreported wellFormed clocked.1 silent.1 with same | ⟨-, cleared⟩
      · rw [same]
        exact blank
      · rw [cleared]
        rfl

theorem run_resetAfter (before passed : List HostEvent) (now : Binary64) :
    start.run (before ++ .reset now :: passed) = ((start.run before).reset now).run passed := by
  rw [run_append, run, List.foldl_cons]
  rfl

theorem resetUnseen_append
    {event : HostEvent} (unreported : (start.run events).reports event = false)
    (unseen : start.ResetUnseen events) : start.ResetUnseen (events ++ [event]) := by
  obtain ⟨before, now, passed, rfl, silent⟩ := unseen
  rw [run_resetAfter] at unreported
  refine ⟨before, now, passed ++ [event], by simp, throughout_append.mpr ⟨silent, ?_⟩⟩
  exact ⟨unreported, trivial⟩

variable {dialect : Dialect} {random : Random.Source} {now : Binary64}

/-- If every reset has been followed by a report, the picture is that of the screen. -/
theorem pictureAfter_of_seen
    (created : create dialect random now = .ok start) (clocked : start.Clocked events)
    (seen : ¬ start.ResetUnseen events) :
    start.pictureAfter start.core.display.clear events = (start.run events).core.display := by
  induction events using List.reverseRecOn with
  | nil =>
      obtain ⟨display, made, rfl⟩ := exists_of_create created
      exact Display.clear_of_create made
  | append_singleton events event inductionHypothesis =>
      have wellFormed := wellFormed_run created events
      obtain ⟨clockedBefore, clock, -⟩ := throughout_append.mp clocked
      have after : start.run (events ++ [event]) = (start.run events).after event :=
        run_append start events [event]
      rw [pictureAfter_append, after]
      -- a report renews the picture, and without one the picture was right before
      cases reported : (start.run events).reports event with
      | true => simp only [pictureAfter, reported, if_true]
      | false =>
          have seenBefore := mt (resetUnseen_append reported) seen
          simp only [pictureAfter, reported, Bool.false_eq_true, if_false]
          rw [inductionHypothesis clockedBefore seenBefore]
          rcases display_after_of_unreported wellFormed clock reported with
            same | ⟨⟨now, rfl⟩, -⟩
          · exact same.symm
          · exact absurd ⟨events, now, [], rfl, trivial⟩ seen

theorem display_run_of_unseen
    (created : create dialect random now = .ok start) {before passed : List HostEvent}
    {time : Binary64} (clocked : start.Clocked (before ++ .reset time :: passed))
    (silent : ((start.run before).reset time).Silent passed) :
    (start.run (before ++ .reset time :: passed)).core.display = start.core.display.clear := by
  have clockedAfter : ((start.run before).reset time).Clocked passed :=
    (throughout_append.mp clocked).2.2
  have wellFormed := wellFormed_after (.reset time) (wellFormed_run created before)
  have cleared : ((start.run before).reset time).core.display.clear =
      ((start.run before).reset time).core.display := by
    rw [reset, Core.reset]
    rfl
  have blank := blank_run_of_silent wellFormed clockedAfter silent cleared
  rw [← clear_run created (before ++ .reset time :: passed), run_resetAfter]
  exact blank.symm

theorem pictureAfter_of_unseen
    {before passed : List HostEvent} {time : Binary64}
    (silent : ((start.run before).reset time).Silent passed) :
    start.pictureAfter picture (before ++ .reset time :: passed) =
      start.pictureAfter picture before := by
  rw [pictureAfter_append, pictureAfter]
  exact pictureAfter_of_silent silent

/-- What a host that copies the screen when it is told to shows after a run. -/
structure PictureLaw (start : Machine) (events : List HostEvent) : Prop where
  /-- The picture is that of the screen, unless a reset has hidden it from the host. -/
  agrees : start.pictureAfter start.core.display.clear events = (start.run events).core.display ↔
    (start.ResetUnseen events →
      start.pictureAfter start.core.display.clear events = start.core.display.clear)
  /-- The screen is blank then, and the host still shows what it showed before. -/
  stale : ∀ before time passed, events = before ++ .reset time :: passed →
    ((start.run before).reset time).Silent passed →
    (start.run events).core.display = start.core.display.clear ∧
      start.pictureAfter start.core.display.clear events =
        start.pictureAfter start.core.display.clear before

theorem pictureLaw_of_create
    (created : create dialect random now = .ok start) (clocked : start.Clocked events) :
    start.PictureLaw events := by
  refine ⟨⟨?_, ?_⟩, ?_⟩
  · rintro agrees ⟨before, time, passed, rfl, silent⟩
    rw [agrees]
    exact display_run_of_unseen created clocked silent
  · intro nothingSeen
    by_cases unseen : start.ResetUnseen events
    · rw [nothingSeen unseen]
      obtain ⟨before, time, passed, rfl, silent⟩ := unseen
      exact (display_run_of_unseen created clocked silent).symm
    · exact pictureAfter_of_seen created clocked unseen
  · rintro before time passed rfl silent
    exact ⟨display_run_of_unseen created clocked silent, pictureAfter_of_unseen silent⟩

/-- A glyph is drawn, and after a reset there is a cycle of a program that draws nothing. -/
def resetAfterGlyph : List HostEvent :=
  [.load [0xD0, 0x05, 0x12, 0x02], .step (.still .zero), .reset .zero,
    .load [0x12, 0x00], .step (.still .zero)]

theorem clocked_resetAfterGlyph : unloaded.Clocked resetAfterGlyph :=
  clocked_still (wellFormed_run create_unloaded []) rfl (by decide)

theorem pictureLaw_resetAfterGlyph :
    create Mode.modern.dialect (.scripted []) .zero = .ok unloaded ∧
      unloaded.Clocked resetAfterGlyph ∧ unloaded.PictureLaw resetAfterGlyph :=
  ⟨create_unloaded, clocked_resetAfterGlyph,
    pictureLaw_of_create create_unloaded clocked_resetAfterGlyph⟩

/-- After the last cycle the host still shows the glyph. -/
theorem picture_outdated :
    create Mode.modern.dialect (.scripted []) .zero = .ok unloaded ∧
      unloaded.Clocked resetAfterGlyph ∧
      unloaded.pictureAfter unloaded.core.display.clear resetAfterGlyph ≠
        (unloaded.run resetAfterGlyph).core.display := by
  refine ⟨create_unloaded, clocked_resetAfterGlyph, ?_⟩
  intro same
  obtain ⟨lit, dark⟩ :
      (unloaded.pictureAfter unloaded.core.display.clear resetAfterGlyph).isLit 0 = true ∧
        (unloaded.run resetAfterGlyph).core.display.isLit 0 = false := by
    decide +kernel
  rw [same, dark] at lit
  cases lit

end Machine

end Chip8
