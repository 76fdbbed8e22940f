import Chip8.Proofs.Machine.ClockedRun
import Chip8.Proofs.Machine.Footprint
import Chip8.Proofs.Machine.Residue
import Mathlib
/-!
Calls and returns.  Whatever a program does after a call, the return address
stays on the stack until a return takes it, and that return leads to the
instruction behind the call.  A run is followed operation by operation: each of
them leaves the stack alone, puts one address on it, or is a return.
-/

namespace Chip8

def HostEvent.isReset : HostEvent → Bool
  | .reset _ => true
  | .load _ | .key _ _ | .runState _ | .step _ => false

namespace Machine

/-- A cycle carries out an instruction of this kind, and does not fail. -/
structure CarriesOut (machine : Machine) (opcode : Opcode) (readings : Readings)
    (after : Machine) : Prop where
  ready : machine.core.runState ≠ .awaitingKey
  matched : opcode.Matches machine.core.nextWord
  succeeds : ∃ snapshot, machine.step readings = .ok snapshot after

variable {machine after : Machine} {opcode : Opcode} {readings : Readings}

theorem footprint_of_carriesOut
    (reachable : machine.Reachable) (carriesOut : machine.CarriesOut opcode readings after) :
    ∃ instruction : Instruction, instruction.opcode = opcode ∧
      machine.Footprint instruction after := by
  have wellFormed := wellFormed_of_reachable reachable
  obtain ⟨snapshot, stepped⟩ := carriesOut.succeeds
  have cycle := cycle_of_wellFormed wellFormed readings
  rw [stepped] at cycle
  cases cycle with
  | waited awaiting => exact absurd awaiting carriesOut.ready
  | @completed instruction _ reaches accepted =>
      exact ⟨instruction, Opcode.eq_of_matches reaches.matched carriesOut.matched,
        footprint_completed wellFormed reaches accepted⟩

theorem after_of_carriesOut
    (carriesOut : machine.CarriesOut opcode readings after) :
    machine.after (.step readings) = after := by
  obtain ⟨snapshot, stepped⟩ := carriesOut.succeeds
  exact after_of_step stepped

inductive StackMove (machine : Machine) (event : HostEvent) : Prop where
  | kept :
      (machine.after event).core.stack.frames = machine.core.stack.frames →
      StackMove machine event
  | pushed (address : Int) :
      (machine.after event).core.stack.frames = address :: machine.core.stack.frames →
      StackMove machine event
  | returned (readings : Readings) :
      event = .step readings →
      machine.CarriesOut .ret readings (machine.after event) →
      machine.core.stack.frames =
        (machine.after event).core.memory.programCounter ::
          (machine.after event).core.stack.frames →
      StackMove machine event

theorem stackMove_of_footprint
    {instruction : Instruction} {snapshot : Snapshot RegisterView}
    (reaches : machine.core.Reaches instruction)
    (footprint : machine.Footprint instruction after)
    (stepped : machine.step readings = .ok snapshot after) :
    machine.StackMove (.step readings) := by
  have left : machine.after (.step readings) = after := after_of_step stepped
  by_cases call : instruction.opcode = .call
  · have frames := footprint.called call
    rw [← left] at frames
    exact .pushed _ frames
  by_cases ret : instruction.opcode = .ret
  · have matched := reaches.matched
    rw [ret] at matched
    have frames := footprint.returned ret
    rw [← left] at frames stepped
    exact .returned readings rfl ⟨reaches.ready, matched, snapshot, stepped⟩ frames
  · have stack := footprint.stack (by simp [call, ret])
    rw [← left] at stack
    exact .kept (congrArg CallStack.frames stack)

theorem stackMove_step
    (wellFormed : machine.core.WellFormed) (clock : machine.core.ClockDefined readings) :
    machine.StackMove (.step readings) := by
  cases stepped : machine.step readings with
  | ok snapshot after =>
      have cycle := cycle_of_wellFormed wellFormed readings
      have left : machine.after (.step readings) = after := after_of_step stepped
      rw [stepped] at cycle
      cases cycle with
      | waited =>
          refine .kept ?_
          rw [left]
          rfl
      | completed reaches accepted =>
          exact stackMove_of_footprint reaches
            (footprint_completed wellFormed reaches accepted) stepped
  | error fault after =>
      have residue := leftByFault_of_error wellFormed clock stepped
      have left : machine.after (.step readings) = after := after_of_step stepped
      by_cases calls : machine.core.CallsOutside
      · have frames := residue.pushed calls
        rw [← left] at frames
        exact .pushed _ frames
      · have stack := residue.kept calls
        rw [← left] at stack
        exact .kept (congrArg CallStack.frames stack)

theorem stackMove_after
    (wellFormed : machine.core.WellFormed) {event : HostEvent} (clock : machine.ClockedAt event)
    (goesOn : event.isReset = false) :
    machine.StackMove event := by
  rcases machine.after_cases event with
    ⟨now, rfl, -⟩ | ⟨readings, rfl, -⟩ | ⟨ram, keypad, runState, left⟩
  · cases goesOn
  · exact stackMove_step wellFormed clock
  · refine .kept ?_
    rw [left]

/-- An address stays on the stack until a return goes there. -/
theorem suffix_after
    (wellFormed : machine.core.WellFormed) {event : HostEvent} (clock : machine.ClockedAt event)
    (goesOn : event.isReset = false) {address : Int} {frames : List Int}
    (stacked : (address :: frames) <:+ machine.core.stack.frames) :
    (address :: frames) <:+ (machine.after event).core.stack.frames ∨
      ∃ readings, event = .step readings ∧
        machine.CarriesOut .ret readings (machine.after event) ∧
        (machine.after event).core.memory.programCounter = address ∧
        (machine.after event).core.stack.frames = frames := by
  cases stackMove_after wellFormed clock goesOn with
  | kept same =>
      rw [same]
      exact .inl stacked
  | pushed top pushed =>
      rw [pushed]
      exact .inl (stacked.trans (List.suffix_cons top _))
  | returned readings isStep carriesOut taken =>
      -- the return takes either this address or one that has been put above it
      rw [taken, List.suffix_cons_iff] at stacked
      rcases stacked with top | below
      · obtain ⟨sameAddress, sameFrames⟩ := List.cons.inj top
        exact .inr ⟨readings, isStep, carriesOut, sameAddress.symm, sameFrames.symm⟩
      · exact .inl below

/-- The stack is deeper than this after each part of a run. -/
def StaysAbove (machine : Machine) (depth : Nat) (events : List HostEvent) : Prop :=
  ∀ passed, passed <+: events → depth < (machine.run passed).core.stack.depth

instance decidableStaysAbove (machine : Machine) (depth : Nat) (events : List HostEvent) :
    Decidable (machine.StaysAbove depth events) :=
  decidable_of_iff (∀ passed ∈ events.inits, depth < (machine.run passed).core.stack.depth) <| by
    simp only [List.mem_inits, StaysAbove]

/-- A run without resets in which the ticks can be counted. -/
structure GoesOn (machine : Machine) (events : List HostEvent) : Prop where
  noReset : ∀ event ∈ events, event.isReset = false
  clocked : machine.Clocked events

theorem GoesOn.of_append
    {events further : List HostEvent} (goesOn : machine.GoesOn (events ++ further)) :
    machine.GoesOn events where
  noReset event membership := goesOn.noReset event (List.mem_append_left further membership)
  clocked := (throughout_append.mp goesOn.clocked).1

theorem GoesOn.last
    {events : List HostEvent} {event : HostEvent}
    (goesOn : machine.GoesOn (events ++ [event])) :
    (machine.run events).ClockedAt event ∧ event.isReset = false :=
  ⟨(throughout_append.mp goesOn.clocked).2.1, goesOn.noReset event (by simp)⟩

/-- While the stack is deeper than it was, an address put on it stays there. -/
theorem suffix_run
    (reachable : machine.Reachable) {events : List HostEvent} (goesOn : machine.GoesOn events)
    {address : Int} {frames : List Int} (above : machine.StaysAbove frames.length events)
    (stacked : (address :: frames) <:+ machine.core.stack.frames) :
    (address :: frames) <:+ (machine.run events).core.stack.frames := by
  induction events using List.reverseRecOn with
  | nil => exact stacked
  | append_singleton events event inductionHypothesis =>
      have aboveBefore : machine.StaysAbove frames.length events := by
        intro passed before
        exact above passed (before.trans (List.prefix_append events [event]))
      have before := inductionHypothesis goesOn.of_append aboveBefore
      have wellFormed := wellFormed_of_reachable (reachable_run reachable events)
      obtain ⟨clock, noReset⟩ := goesOn.last
      have above := above (events ++ [event]) List.prefix_rfl
      rw [run_append] at above ⊢
      rcases suffix_after wellFormed clock noReset before with kept | ⟨_, _, _, _, taken⟩
      · exact kept
      -- otherwise the stack would be no deeper than below the address
      · have same : ((machine.run events).run [event]).core.stack.frames = frames := taken
        rw [CallStack.depth, same] at above
        exact absurd above (Nat.lt_irrefl _)

/-- The operation after which the stack is no longer deeper is a return to the address. -/
theorem returned_run
    (reachable : machine.Reachable) {events : List HostEvent} {event : HostEvent}
    (goesOn : machine.GoesOn (events ++ [event]))
    {address : Int} {frames : List Int} (above : machine.StaysAbove frames.length events)
    (back : (machine.run (events ++ [event])).core.stack.depth ≤ frames.length)
    (stacked : (address :: frames) <:+ machine.core.stack.frames) :
    ∃ readings, event = .step readings ∧
      (machine.run events).CarriesOut .ret readings (machine.run (events ++ [event])) ∧
      (machine.run (events ++ [event])).core.memory.programCounter = address ∧
      (machine.run (events ++ [event])).core.stack.frames = frames := by
  have before := suffix_run reachable goesOn.of_append above stacked
  have wellFormed := wellFormed_of_reachable (reachable_run reachable events)
  obtain ⟨clock, noReset⟩ := goesOn.last
  rw [run_append] at back ⊢
  rcases suffix_after wellFormed clock noReset before with kept | returned
  · have deep : (address :: frames).length ≤ ((machine.run events).run [event]).core.stack.depth :=
      kept.length_le
    rw [List.length_cons] at deep
    omega
  · exact returned

/-- A call that finds the stack full fails, and leaves the stack as it is. -/
theorem step_call_of_full
    (wellFormed : machine.core.WellFormed) (ready : machine.core.runState ≠ .awaitingKey)
    (inside : machine.core.memory.programCounter ≤ 0xE9E)
    (matched : Opcode.call.Matches machine.core.nextWord)
    (full : machine.core.stack.depth = CallStack.limit) (readings : Readings) :
    machine.step readings =
      .error (.stackOverflow (machine.core.memory.programCounter + 2))
        ⟨machine.core.fetched, machine.cycleCount⟩ := by
  have reaches := Core.reaches_of_matches ready inside matched
  have noRoom : ¬ machine.core.fetched.stack.depth < CallStack.limit := not_lt_of_ge full.ge
  rw [step_ready ready, carryOut_fetched readings wellFormed.counterNonneg wellFormed.indexNonneg
    reaches.toFetches, reaches.decoded]
  simp only [Instruction.fault?, Instruction.residue, Core.nextInstruction, if_neg noRoom,
    Core.counter_fetched]

/-- How calls and returns of a machine belong together. -/
structure CallDiscipline (machine : Machine) : Prop where
  /-- At most sixteen calls are open. -/
  limited : machine.core.stack.depth ≤ 16
  /-- One more call fails and overwrites no return address. -/
  overflow : machine.core.runState ≠ .awaitingKey → machine.core.memory.programCounter ≤ 0xE9E →
    Opcode.call.Matches machine.core.nextWord → machine.core.stack.depth = 16 → ∀ readings,
    ∃ fault after, machine.step readings = .error fault after ∧ fault.kind = .stackOverflow ∧
      after.core.stack = machine.core.stack
  /-- As long as the stack is deeper than before a call, the return address lies on the old one. -/
  stays : ∀ readings called, machine.CarriesOut .call readings called → ∀ events,
    called.GoesOn events → called.StaysAbove machine.core.stack.depth events →
    (machine.core.stack.toList ++ [machine.core.memory.programCounter + 2]) <+:
      (called.run events).core.stack.toList
  /-- What ends this is a return to the word behind the call, and it leaves the old stack. -/
  returns : ∀ readings called, machine.CarriesOut .call readings called → ∀ events event,
    called.GoesOn (events ++ [event]) → called.StaysAbove machine.core.stack.depth events →
    (called.run (events ++ [event])).core.stack.depth ≤ machine.core.stack.depth →
    (∃ last, event = .step last ∧
      (called.run events).CarriesOut .ret last (called.run (events ++ [event]))) ∧
      (called.run (events ++ [event])).core.memory.programCounter =
        machine.core.memory.programCounter + 2 ∧
      (called.run (events ++ [event])).core.stack = machine.core.stack

theorem callDiscipline_of_reachable (reachable : machine.Reachable) :
    machine.CallDiscipline := by
  have wellFormed := wellFormed_of_reachable reachable
  have stacked {readings : Readings} {called : Machine}
      (carriesOut : machine.CarriesOut .call readings called) :
      ((machine.core.memory.programCounter + 2) :: machine.core.stack.frames) <:+
        called.core.stack.frames := by
    obtain ⟨instruction, opcode, footprint⟩ := footprint_of_carriesOut reachable carriesOut
    rw [footprint.called opcode]
  have reachableCalled {readings : Readings} {called : Machine}
      (carriesOut : machine.CarriesOut .call readings called) : called.Reachable := by
    rw [← after_of_carriesOut carriesOut]
    exact reachable_after reachable _
  refine ⟨wellFormed.shallow, ?_, ?_, ?_⟩
  · intro ready inside matched full readings
    exact ⟨_, _, step_call_of_full wellFormed ready inside matched full readings, rfl, rfl⟩
  · intro readings called carriesOut events goesOn above
    have kept := suffix_run (reachableCalled carriesOut) goesOn above (stacked carriesOut)
    rw [CallStack.toList, CallStack.toList, ← List.reverse_cons]
    exact List.reverse_prefix.mpr kept
  · intro readings called carriesOut events event goesOn above back
    obtain ⟨last, isStep, returns, counter, frames⟩ :=
      returned_run (reachableCalled carriesOut) goesOn above back (stacked carriesOut)
    exact ⟨⟨last, isStep, returns⟩, counter, congrArg CallStack.mk frames⟩

/-- A call within a call; the second return leads behind the first call. -/
theorem callDiscipline_nested :
    let machine := unloaded.run
      [.load [0x22, 0x04, 0x00, 0x00, 0x22, 0x08, 0x00, 0xEE, 0x00, 0xEE]]
    let readings := Readings.still .zero
    let called := machine.after (.step readings)
    let events : List HostEvent := [.step readings, .key 3 true, .step readings]
    let last := HostEvent.step readings
    machine.CarriesOut .call readings called ∧ called.GoesOn (events ++ [last]) ∧
      called.StaysAbove machine.core.stack.depth events ∧
      (called.run (events ++ [last])).core.stack.depth ≤ machine.core.stack.depth ∧
      machine.CallDiscipline := by
  intro machine readings called events last
  have reachable : machine.Reachable := reachable_run_unloaded _
  obtain ⟨found, ready, success, stands, above, back⟩ :
      Instruction.decode machine.core.nextWord = .ok (machine.core.nextInstruction .call) ∧
        machine.core.runState ≠ .awaitingKey ∧
        succeeded (machine.step readings) = true ∧
        called.core.delay.reference = .zero ∧
        called.StaysAbove machine.core.stack.depth events ∧
        (called.run (events ++ [last])).core.stack.depth ≤ machine.core.stack.depth := by
    decide +kernel
  have carriesOut : machine.CarriesOut .call readings called := by
    refine ⟨ready, (Instruction.decode_eq_ok_iff.mp found).1, ?_⟩
    cases stepped : machine.step readings with
    | ok snapshot after =>
        have left : called = after := after_of_step stepped
        exact ⟨snapshot, left ▸ rfl⟩
    | error fault after =>
        rw [stepped] at success
        cases success
  have goesOn : called.GoesOn (events ++ [last]) := by
    refine ⟨by decide, ?_⟩
    have wellFormed := wellFormed_after (.step readings) (wellFormed_of_reachable reachable)
    exact clocked_still wellFormed stands (by decide)
  exact ⟨carriesOut, goesOn, above, back, callDiscipline_of_reachable reachable⟩

end Machine

end Chip8
