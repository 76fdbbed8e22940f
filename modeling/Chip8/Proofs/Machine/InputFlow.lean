import Chip8.Proofs.Machine.ClockedRun
import Chip8.Proofs.Machine.InputRelation
import Mathlib
/-!
Inputs flow only through the instructions that read them.  Two machines that
agree apart from some inputs are operated in the same way, apart from these
inputs.  Until an instruction reads one of them, the machines go on to agree,
and every operation has the same outcome for both.
-/

namespace Chip8

open Numeric (Binary64)
open DelayTimer (TicksDefined)

/--
The relation of cores that may differ in some inputs, with a condition on their
timers if the clocks differ.
-/
def InputRelation.except (differing : Set Input) (timers : DelayTimer → DelayTimer → Prop) :
    InputRelation where
  shared := differingᶜ
  timers left right :=
    (Input.clock ∉ differing → right = left) ∧ (Input.clock ∈ differing → timers left right)
  keypads left right := Input.keys ∉ differing → right = left
  sources left right := Input.random ∉ differing → right = left
  timers_iff shared := ⟨fun related => related.1 shared,
    fun same => ⟨fun _ => same, fun differs => absurd differs shared⟩⟩
  keypads_iff shared := ⟨fun related => related shared, fun same _ => same⟩
  sources_iff shared := ⟨fun related => related shared, fun same _ => same⟩

theorem Keypad.set_alike (left right : Keypad) (key : Int) (pressed : Bool) :
    (∃ leftNext rightNext,
      left.set key pressed = .ok leftNext ∧ right.set key pressed = .ok rightNext) ∨
    ∃ fault, left.set key pressed = .error fault ∧ right.set key pressed = .error fault := by
  unfold set
  by_cases inside : 0 ≤ key ∧ key < 16
  · rw [if_pos inside, if_pos inside]
    exact .inl ⟨_, _, rfl, rfl⟩
  · rw [if_neg inside, if_neg inside]
    exact .inr ⟨_, rfl, rfl⟩

/-- The keypad after an operation of a key; a number that names no key changes nothing. -/
def Keypad.updated (keypad : Keypad) (key : Int) (pressed : Bool) : Keypad :=
  match keypad.set key pressed with
  | .ok changed => changed
  | .error _ => keypad

theorem Snapshot.Alike.eq
    {shared : Set Input} {left right : Snapshot RegisterView} (alike : left.Alike shared right)
    (clock : .clock ∈ shared) : right = left := by
  have view : right.view = left.view := by
    rw [alike.view.rest, alike.view.delay clock]
  rw [alike.rest, view]

namespace HostEvent

/-- Two operations are the same, but for the readings of the clock if the clocks differ. -/
inductive Alike (differing : Set Input) : HostEvent → HostEvent → Prop where
  | load (program : List Int) : Alike differing (.load program) (.load program)
  | key (key : Int) (pressed : Bool) : Alike differing (.key key pressed) (.key key pressed)
  | runState (state : RunState) : Alike differing (.runState state) (.runState state)
  | reset {left right} :
      (.clock ∉ differing → right = left) → Alike differing (.reset left) (.reset right)
  | step {left right} :
      (.clock ∉ differing → right = left) → Alike differing (.step left) (.step right)

end HostEvent

/-- Two lists of operations are the same, but for the operations of keys if the keys differ. -/
inductive SameSchedule (differing : Set Input) : List HostEvent → List HostEvent → Prop where
  | nil : SameSchedule differing [] []
  | both {leftEvent rightEvent leftEvents rightEvents} :
      leftEvent.Alike differing rightEvent → SameSchedule differing leftEvents rightEvents →
      SameSchedule differing (leftEvent :: leftEvents) (rightEvent :: rightEvents)
  | left {leftEvents rightEvents} (key : Int) (pressed : Bool) :
      .keys ∈ differing → SameSchedule differing leftEvents rightEvents →
      SameSchedule differing (.key key pressed :: leftEvents) rightEvents
  | right {leftEvents rightEvents} (key : Int) (pressed : Bool) :
      .keys ∈ differing → SameSchedule differing leftEvents rightEvents →
      SameSchedule differing leftEvents (.key key pressed :: rightEvents)

namespace Machine

/-- Two machines are the same, but for what belongs to some inputs. -/
structure AgreeExcept (differing : Set Input) (left right : Machine) : Prop where
  core : right.core = left.core.withInputs right.core.inputs
  cycleCount : right.cycleCount = left.cycleCount
  delay : .clock ∉ differing → right.core.delay = left.core.delay
  keypad : .keys ∉ differing → right.core.keypad = left.core.keypad
  random : .random ∉ differing → right.core.random = left.core.random

/-- The operation is not a cycle that reads one of these inputs. -/
def AvoidsAt (differing : Set Input) (machine : Machine) : HostEvent → Prop
  | .step _ => ∀ input, machine.core.inputRead? = some input → input ∉ differing
  | .load _ | .key _ _ | .runState _ | .reset _ => True

instance decidableAvoidsAt
    (differing : Set Input) [DecidablePred (· ∈ differing)] (machine : Machine)
    (event : HostEvent) : Decidable (AvoidsAt differing machine event) :=
  match event with
  | .step _ => inferInstanceAs (Decidable (∀ input ∈ machine.core.inputRead?, input ∉ differing))
  | .load _ | .key _ _ | .runState _ | .reset _ => .isTrue trivial

/-- No cycle of a run reads one of these inputs. -/
def Avoids (machine : Machine) (differing : Set Input) (events : List HostEvent) : Prop :=
  machine.Throughout (AvoidsAt differing) events

instance decidableAvoids
    (differing : Set Input) [DecidablePred (· ∈ differing)] (machine : Machine)
    (events : List HostEvent) : Decidable (machine.Avoids differing events) :=
  inferInstanceAs (Decidable (machine.Throughout _ events))

variable {differing : Set Input} {left right machine : Machine}
  {leftEvent rightEvent : HostEvent} {leftEvents rightEvents : List HostEvent}
  {readings leftReadings rightReadings : Readings}

theorem AgreeExcept.related
    (agree : left.AgreeExcept differing right) {timers : DelayTimer → DelayTimer → Prop}
    (related : .clock ∈ differing → timers left.core.delay right.core.delay) :
    left.Related (.except differing timers) right :=
  ⟨⟨agree.core, ⟨agree.delay, related⟩, agree.keypad, agree.random⟩, agree.cycleCount⟩

theorem agreeExcept_of_related
    {timers : DelayTimer → DelayTimer → Prop}
    (related : left.Related (.except differing timers) right) : left.AgreeExcept differing right :=
  ⟨related.core.same, related.cycleCount, related.core.timers.1, related.core.keypads,
    related.core.sources⟩

/-- The ticks up to the snapshots can be counted for both timers. -/
def BothShown (leftReadings rightReadings : Readings) (leftTimer rightTimer : DelayTimer) : Prop :=
  TicksDefined leftTimer.reference leftReadings.snapshot ∧
    TicksDefined rightTimer.reference rightReadings.snapshot

theorem allows_of_clockDefined
    (same : .clock ∉ differing → rightReadings = leftReadings)
    (clock : .clock ∈ differing →
      left.core.ClockDefined leftReadings ∧ right.core.ClockDefined rightReadings) :
    (InputRelation.except differing (BothShown leftReadings rightReadings)).Allows
      leftReadings rightReadings where
  same shared := same shared
  stored value := by
    refine ⟨?_, ?_⟩
    · intro shared
      rw [same shared]
    · intro differs
      exact ⟨(clock differs).1.between, (clock differs).2.between⟩
  shown := by
    intro differs leftTimer rightTimer related
    obtain ⟨leftDefined, rightDefined⟩ := related.2 (not_not.mp differs)
    obtain ⟨leftValue, leftShown, -⟩ := DelayTimer.peek_of_ticksDefined leftDefined
    obtain ⟨rightValue, rightShown, -⟩ := DelayTimer.peek_of_ticksDefined rightDefined
    exact ⟨⟨leftValue, leftShown⟩, rightValue, rightShown⟩

theorem outcomes_step_of_agreeExcept
    (agree : left.AgreeExcept differing right)
    (same : .clock ∉ differing → rightReadings = leftReadings)
    (clock : .clock ∈ differing →
      left.core.ClockDefined leftReadings ∧ right.core.ClockDefined rightReadings)
    (avoids : ∀ input, left.core.inputRead? = some input → input ∉ differing) :
    Outcomes (Snapshot.Alike differingᶜ) (AgreeExcept differing)
      (left.step leftReadings) (right.step rightReadings) := by
  have shown (differs : .clock ∈ differing) :
      BothShown leftReadings rightReadings left.core.delay right.core.delay :=
    ⟨(clock differs).1.toSnapshot, (clock differs).2.toSnapshot⟩
  have related := agree.related shown
  have outcomes := outcomes_step related (allows_of_clockDefined same clock) avoids
  generalize left.step leftReadings = leftResult at outcomes ⊢
  generalize right.step rightReadings = rightResult at outcomes ⊢
  cases outcomes with
  | ok alike related => exact .ok alike (agreeExcept_of_related related)
  | error related => exact .error (agreeExcept_of_related related)

theorem AgreeExcept.exists_inputs (agree : left.AgreeExcept differing right) :
    ∃ inputs : Inputs, right = ⟨left.core.withInputs inputs, left.cycleCount⟩ ∧
      (.clock ∉ differing → inputs.delay = left.core.delay) ∧
      (.keys ∉ differing → inputs.keypad = left.core.keypad) ∧
      (.random ∉ differing → inputs.random = left.core.random) := by
  obtain ⟨core, cycleCount, delay, keypad, random⟩ := agree
  refine ⟨right.core.inputs, ?_, delay, keypad, random⟩
  rw [← core, ← cycleCount]

theorem outcomes_perform
    (agree : left.AgreeExcept differing right) (alike : leftEvent.Alike differing rightEvent)
    (clock : .clock ∈ differing → left.ClockedAt leftEvent ∧ right.ClockedAt rightEvent)
    (avoids : left.AvoidsAt differing leftEvent) :
    Outcomes (Option.Rel (Snapshot.Alike differingᶜ)) (AgreeExcept differing)
      (left.perform leftEvent) (right.perform rightEvent) := by
  cases alike with
  | step same =>
      have outcomes := outcomes_step_of_agreeExcept agree same clock avoids
      rw [perform_step, perform_step]
      generalize left.step _ = leftResult at outcomes ⊢
      generalize right.step _ = rightResult at outcomes ⊢
      cases outcomes with
      | ok alike next => exact .ok (.some alike) next
      | error next => exact .error next
  | load program =>
      obtain ⟨inputs, rfl, delay, keypad, random⟩ := agree.exists_inputs
      have memory : (left.core.withInputs inputs).memory = left.core.memory := rfl
      rw [perform_load, perform_load, memory]
      cases left.core.memory.load program with
      | ok memory => exact .ok .none ⟨rfl, rfl, delay, keypad, random⟩
      | error fault => exact .error agree
  | key key pressed =>
      obtain ⟨inputs, rfl, delay, keypad, random⟩ := agree.exists_inputs
      rw [perform_key, perform_key]
      rcases Keypad.set_alike left.core.keypad inputs.keypad key pressed with
        ⟨leftNext, rightNext, leftSet, rightSet⟩ | ⟨fault, leftFails, rightFails⟩
      · have changed : (left.core.withInputs inputs).keypad.set key pressed = .ok rightNext :=
          rightSet
        rw [leftSet, changed]
        refine .ok .none ⟨rfl, rfl, delay, ?_, random⟩
        intro shared
        rw [keypad shared, leftSet] at rightSet
        injection rightSet with same
        exact same.symm
      · have refused : (left.core.withInputs inputs).keypad.set key pressed = .error fault :=
          rightFails
        rw [leftFails, refused]
        exact .error agree
  | runState state =>
      obtain ⟨inputs, rfl, delay, keypad, random⟩ := agree.exists_inputs
      exact .ok .none ⟨rfl, rfl, delay, keypad, random⟩
  | reset same =>
      obtain ⟨inputs, rfl, delay, keypad, random⟩ := agree.exists_inputs
      refine .ok .none ⟨rfl, rfl, ?_, fun _ => rfl, ?_⟩
      · intro shared
        rw [same shared]
        rfl
      · intro shared
        simp only [reset, Core.reset]
        exact random shared

theorem agreeExcept_after_leftKey
    (agree : left.AgreeExcept differing right) (differs : .keys ∈ differing)
    (key : Int) (pressed : Bool) :
    (left.after (.key key pressed)).AgreeExcept differing right := by
  obtain ⟨keypad, changed⟩ := left.after_key key pressed
  rw [changed]
  exact ⟨agree.core, agree.cycleCount, agree.delay, fun same => absurd differs same, agree.random⟩

theorem agreeExcept_after_rightKey
    (agree : left.AgreeExcept differing right) (differs : .keys ∈ differing)
    (key : Int) (pressed : Bool) :
    left.AgreeExcept differing (right.after (.key key pressed)) := by
  obtain ⟨keypad, changed⟩ := right.after_key key pressed
  rw [changed]
  refine ⟨?_, agree.cycleCount, agree.delay, fun same => absurd differs same, agree.random⟩
  exact congrArg (fun core : Core => { core with keypad }) agree.core

theorem agreeExcept_run
    (schedule : SameSchedule differing leftEvents rightEvents)
    (agree : left.AgreeExcept differing right) (avoids : left.Avoids differing leftEvents)
    (clock : .clock ∈ differing → left.Clocked leftEvents ∧ right.Clocked rightEvents) :
    (left.run leftEvents).AgreeExcept differing (right.run rightEvents) := by
  induction schedule generalizing left right with
  | nil => exact agree
  | both alike schedule inductionHypothesis =>
      have outcomes := outcomes_perform agree alike
        (fun differs => ⟨(clock differs).1.1, (clock differs).2.1⟩) avoids.1
      exact inductionHypothesis (related_of_outcomes outcomes) avoids.2
        fun differs => ⟨(clock differs).1.2, (clock differs).2.2⟩
  | left key pressed differs schedule inductionHypothesis =>
      exact inductionHypothesis (agreeExcept_after_leftKey agree differs key pressed) avoids.2
        fun changed => ⟨(clock changed).1.2, (clock changed).2⟩
  | right key pressed differs schedule inductionHypothesis =>
      exact inductionHypothesis (agreeExcept_after_rightKey agree differs key pressed) avoids
        fun changed => ⟨(clock changed).1, (clock changed).2.2⟩

/-- What an action reports: its result or its fault. -/
def reportOf {Result : Type} : EStateM.Result Fault Machine Result → Except Fault Result
  | .ok result _ => .ok result
  | .error fault _ => .error fault

/-- The relation of cores with two fixed keypads that agree on all else. -/
def betweenKeypads (before after : Keypad) : InputRelation where
  shared := {.clock, .random}
  timers left right := right = left
  keypads left right := left = before ∧ right = after
  sources left right := right = left
  timers_iff _ := Iff.rfl
  keypads_iff shared := by simp at shared
  sources_iff _ := Iff.rfl

theorem eq_of_betweenKeypads
    {before after : Keypad} (related : left.Related (betweenKeypads before after) right) :
    left.core.keypad = before ∧
      right = { left with core := { left.core with keypad := after } } := by
  obtain ⟨⟨same, timers, ⟨leftKeypad, rightKeypad⟩, sources⟩, cycleCount⟩ := related
  refine ⟨leftKeypad, ?_⟩
  have inputs : right.core.inputs = ⟨left.core.delay, after, left.core.random⟩ := by
    rw [Core.inputs, timers, rightKeypad, sources]
  rw [inputs] at same
  rw [Core.withInputs] at same
  rw [← same, ← cycleCount]

theorem allows_betweenKeypads (before after : Keypad) (readings : Readings) :
    (betweenKeypads before after).Allows readings readings where
  same _ := rfl
  stored _ := rfl
  shown differs := absurd (by simp [betweenKeypads]) differs

theorem after_key_eq (machine : Machine) (key : Int) (pressed : Bool) :
    machine.after (.key key pressed) =
      { machine with
        core := { machine.core with keypad := machine.core.keypad.updated key pressed } } := by
  rw [after, perform_key, Keypad.updated]
  cases machine.core.keypad.set key pressed <;> rfl

theorem outcomes_step_after_key
    (other : machine.core.inputRead? ≠ some .keys) (key : Int) (pressed : Bool)
    (readings : Readings) :
    Outcomes Eq (Related (betweenKeypads machine.core.keypad
        (machine.core.keypad.updated key pressed)))
      (machine.step readings) ((machine.after (.key key pressed)).step readings) := by
  have related : machine.Related
      (betweenKeypads machine.core.keypad (machine.core.keypad.updated key pressed))
      (machine.after (.key key pressed)) := by
    rw [after_key_eq]
    exact ⟨⟨rfl, rfl, ⟨rfl, rfl⟩, rfl⟩, rfl⟩
  have reads (input : Input) (read : machine.core.inputRead? = some input) :
      input ∈ ({.clock, .random} : Set Input) := by
    cases input with
    | clock => simp
    | random => simp
    | keys => exact absurd read other
  have outcomes := outcomes_step related (allows_betweenKeypads _ _ readings) reads
  generalize machine.step readings = leftResult at outcomes ⊢
  generalize (machine.after (.key key pressed)).step readings = rightResult at outcomes ⊢
  cases outcomes with
  | error next => exact .error next
  | ok alike next => exact .ok (alike.eq (.inl rfl)).symm next

/-- An operation of a key and a cycle can change places unless the cycle reads the keys. -/
theorem key_commutes_step
    (other : machine.core.inputRead? ≠ some .keys) (key : Int) (pressed : Bool)
    (readings : Readings) :
    (machine.after (.key key pressed)).after (.step readings) =
        (machine.after (.step readings)).after (.key key pressed) ∧
      reportOf ((machine.after (.key key pressed)).step readings) =
        reportOf (machine.step readings) ∧
      reportOf ((machine.after (.step readings)).perform (.key key pressed)) =
        reportOf (machine.perform (.key key pressed)) := by
  have outcomes := outcomes_step_after_key other key pressed readings
  obtain ⟨keypad, changed⟩ := eq_of_betweenKeypads (related_of_outcomes outcomes)
  rw [← after_step, ← after_step] at changed
  rw [← after_step] at keypad
  refine ⟨?_, ?_, ?_⟩
  · rw [changed, after_key_eq (machine.after (.step readings)), keypad]
  · generalize machine.step readings = leftResult at outcomes ⊢
    generalize (machine.after (.key key pressed)).step readings = rightResult at outcomes ⊢
    cases outcomes with
    | ok same => rw [reportOf, reportOf, same]
    | error => rfl
  · rw [perform_key, perform_key, keypad]
    cases machine.core.keypad.set key pressed <;> rfl

/-- How two machines that differ in some inputs behave when they are operated alike. -/
structure InputFlow (differing : Set Input) (left right : Machine) : Prop where
  /-- After runs in which none of these inputs is read the machines differ in nothing else. -/
  agrees : ∀ {leftEvents rightEvents}, SameSchedule differing leftEvents rightEvents →
    left.Avoids differing leftEvents →
    (.clock ∈ differing → left.Clocked leftEvents ∧ right.Clocked rightEvents) →
    (left.run leftEvents).AgreeExcept differing (right.run rightEvents)
  /-- The next operation fails for both in the same way, or for none, with like results. -/
  reports : ∀ {leftEvents rightEvents leftEvent rightEvent},
    SameSchedule differing leftEvents rightEvents → leftEvent.Alike differing rightEvent →
    left.Avoids differing (leftEvents ++ [leftEvent]) →
    (.clock ∈ differing →
      left.Clocked (leftEvents ++ [leftEvent]) ∧ right.Clocked (rightEvents ++ [rightEvent])) →
    Outcomes (Option.Rel (Snapshot.Alike differingᶜ)) (AgreeExcept differing)
      ((left.run leftEvents).perform leftEvent) ((right.run rightEvents).perform rightEvent)
  /-- An operation of a key and a cycle that does not read the keys can change places. -/
  commutes : ∀ events, (left.run events).core.inputRead? ≠ some .keys →
    ∀ key pressed readings,
    let machine := left.run events
    (machine.after (.key key pressed)).after (.step readings) =
        (machine.after (.step readings)).after (.key key pressed) ∧
      reportOf ((machine.after (.key key pressed)).step readings) =
        reportOf (machine.step readings) ∧
      reportOf ((machine.after (.step readings)).perform (.key key pressed)) =
        reportOf (machine.perform (.key key pressed))

theorem inputFlow_of_agreeExcept (agree : left.AgreeExcept differing right) :
    InputFlow differing left right := by
  refine ⟨?_, ?_, ?_⟩
  · intro leftEvents rightEvents schedule avoids clock
    exact agreeExcept_run schedule agree avoids clock
  · intro leftEvents rightEvents leftEvent rightEvent schedule alike avoids clock
    have avoided := throughout_append.mp avoids
    have clocked (differs : .clock ∈ differing) :
        (left.Clocked leftEvents ∧ (left.run leftEvents).ClockedAt leftEvent) ∧
          right.Clocked rightEvents ∧ (right.run rightEvents).ClockedAt rightEvent := by
      obtain ⟨leftClock, rightClock⟩ := clock differs
      have leftSplit := throughout_append.mp leftClock
      have rightSplit := throughout_append.mp rightClock
      exact ⟨⟨leftSplit.1, leftSplit.2.1⟩, rightSplit.1, rightSplit.2.1⟩
    have before := agreeExcept_run schedule agree avoided.1
      fun differs => ⟨(clocked differs).1.1, (clocked differs).2.1⟩
    exact outcomes_perform before alike
      (fun differs => ⟨(clocked differs).1.2, (clocked differs).2.2⟩) avoided.2.1
  · intro events other key pressed readings
    exact key_commutes_step other key pressed readings

def otherwiseRandom : Machine :=
  ⟨unloaded.core.withInputs ⟨unloaded.core.delay, unloaded.core.keypad, .scripted [7]⟩, 0⟩

def twoTimes : Set Binary64 := {.zero, .finite false 1 0}

theorem ticksDefined_twoTimes :
    ∀ first ∈ twoTimes, ∀ second ∈ twoTimes, TicksDefined first second := by
  rintro first (rfl | rfl) second (rfl | rfl)
  · exact ⟨0, by decide +kernel⟩
  · exact ⟨60, by decide +kernel⟩
  · exact ⟨-60, by decide +kernel⟩
  · exact ⟨0, by decide +kernel⟩

/-- The delay timer is set at different times, and only one of the hosts presses a key. -/
theorem inputFlow_setDelay :
    let leftEvents : List HostEvent :=
      [.load [0x60, 0x05, 0xF0, 0x15], .step (.still .zero), .step (.still .zero)]
    let rightEvents : List HostEvent :=
      [.load [0x60, 0x05, 0xF0, 0x15], .step (.still .zero), .key 5 true,
        .step (.still (.finite false 1 0))]
    unloaded.AgreeExcept Set.univ otherwiseRandom ∧
      SameSchedule Set.univ leftEvents rightEvents ∧ unloaded.Avoids Set.univ leftEvents ∧
      unloaded.Clocked leftEvents ∧ otherwiseRandom.Clocked rightEvents ∧
      InputFlow Set.univ unloaded otherwiseRandom := by
  intro leftEvents rightEvents
  have wellFormed : unloaded.core.WellFormed := wellFormed_run create_unloaded []
  have wellFormedOther : otherwiseRandom.core.WellFormed := wellFormed.of_same rfl rfl rfl rfl
  have agree : unloaded.AgreeExcept Set.univ otherwiseRandom :=
    ⟨rfl, rfl, fun _ => rfl, fun _ => rfl, fun shared => absurd trivial shared⟩
  refine ⟨agree, ?_, ?_, ?_, ?_, inputFlow_of_agreeExcept agree⟩
  · refine .both (.load _) (.both (.step fun _ => rfl) (.right 5 true trivial (.both ?_ .nil)))
    exact .step fun shared => absurd trivial shared
  · decide +kernel
  · refine clocked_of_readings twoTimes ticksDefined_twoTimes wellFormed (.inl rfl) ?_
    simp [leftEvents, HostEvent.clockReadings, twoTimes, Readings.still]
  · refine clocked_of_readings twoTimes ticksDefined_twoTimes wellFormedOther (.inl rfl) ?_
    simp [rightEvents, HostEvent.clockReadings, twoTimes, Readings.still]

end Machine

end Chip8
