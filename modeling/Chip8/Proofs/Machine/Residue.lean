import Chip8.Proofs.Machine.Refusal
import Mathlib
/-!
What a failed cycle leaves behind.  The program counter has passed the word if
there was one, the redraw mark is off, and a call whose target is refused has
already put its return address on the stack; all else is as before.  A machine
whose program counter lies behind the last word stays there until a reset.
-/

namespace Chip8

open Numeric (Binary64)

/-- The next word is a call that finds room on the stack but names no valid target. -/
def Core.CallsOutside (core : Core) : Prop :=
  core.memory.programCounter ≤ 0xE9E ∧ Opcode.call.Matches core.nextWord ∧
    core.stack.depth < 16 ∧ ¬ (0x200 ≤ core.nextWord % 0x1000 ∧ core.nextWord % 0x1000 ≤ 0xEA0)

namespace Machine

/-- What a cycle that fails leaves of a machine. -/
structure LeftByFault (machine after : Machine) : Prop where
  ram : after.core.memory.ram = machine.core.memory.ram
  registers : after.core.registers = machine.core.registers
  index : after.core.memory.index = machine.core.memory.index
  delay : after.core.delay = machine.core.delay
  sound : after.core.sound = machine.core.sound
  keypad : after.core.keypad = machine.core.keypad
  display : after.core.display = machine.core.display
  runState : after.core.runState = machine.core.runState
  random : after.core.random = machine.core.random
  dialect : after.core.dialect = machine.core.dialect
  cycleCount : after.cycleCount = machine.cycleCount
  redraw : after.core.redraw = false
  /-- The program counter stays if the fetch failed, and has passed the word otherwise. -/
  counter : after.core.memory.programCounter =
    match Core.fetch machine.core with
    | .error _ _ => machine.core.memory.programCounter
    | .ok _ _ => machine.core.memory.programCounter + 2
  /-- A call to an invalid target has put its return address on the stack. -/
  pushed : machine.core.CallsOutside →
    after.core.stack.frames = (machine.core.memory.programCounter + 2) :: machine.core.stack.frames
  /-- Apart from that the stack is as before. -/
  kept : ¬ machine.core.CallsOutside → after.core.stack = machine.core.stack

end Machine

namespace Instruction

variable {instruction : Instruction} {now : Binary64} {core : Core}

/-- A refused call has put its return address on the stack if there was room. -/
theorem stack_residue_of_callsOutside
    (reaches : core.Reaches instruction) (calls : core.CallsOutside) :
    (instruction.residue core.fetched).stack =
      ⟨(core.memory.programCounter + 2) :: core.stack.frames⟩ := by
  obtain ⟨-, call, room, -⟩ := calls
  have matched := (decode_eq_ok_iff.mp reaches.decoded).1
  have isCall : instruction.opcode = .call := Opcode.eq_of_matches matched call
  have fits : core.fetched.stack.depth < CallStack.limit := room
  simp only [residue, isCall, if_pos fits]
  rfl

/-- A return is only refused if there is nothing on the stack to lose. -/
theorem stack_residue_of_not_callsOutside
    (wellFormed : core.WellFormed) (reaches : core.Reaches instruction)
    {fault : Fault} (met : instruction.fault? now core.fetched = some fault)
    (other : ¬ core.CallsOutside) :
    (instruction.residue core.fetched).stack = core.stack := by
  have matched := (decode_eq_ok_iff.mp reaches.decoded).1
  unfold residue
  unfold fault? at met
  cases opcode : instruction.opcode
  case call =>
    simp only [opcode] at met ⊢
    split
    next room =>
      -- the stack has changed, so that the target must have been refused
      rw [if_pos room] at met
      refine absurd ⟨reaches.counter_le, opcode ▸ matched, room, ?_⟩ other
      rw [← address_of_decode reaches.decoded]
      intro allowed
      rw [Memory.jumpFault?_eq_none_iff.mpr allowed] at met
      cases met
    next full => rfl
  case ret =>
    simp only [opcode] at met ⊢
    have unmoved : core.fetched.stack = core.stack := rfl
    rw [unmoved] at met ⊢
    cases stack : core.stack with
    | mk frames =>
        cases frames with
        | nil => rfl
        | cons target rest =>
            have range := wellFormed.frames target (by simp [stack])
            have allowed : Memory.InProgram target := ⟨le_trans (by decide) range.1, range.2⟩
            simp only [stack, Memory.jumpFault?_eq_none_iff.mpr allowed, reduceCtorEq] at met
  all_goals rfl

end Instruction

namespace Machine

variable {machine after : Machine} {readings : Readings}

theorem fetch_of_fetches
    (wellFormed : machine.core.WellFormed) (fetches : machine.core.Fetches) :
    Core.fetch machine.core =
      .ok machine.core.nextWord { machine.core with memory := machine.core.memory.advance } := by
  simp only [Core.fetch, Memory.fetch_eq_ok wellFormed.counterNonneg fetches.inside]
  rfl

theorem fetch_of_outside
    (outside : Memory.reservedStart <
      machine.core.memory.programCounter + Memory.instructionSize) :
    Core.fetch machine.core =
      .error (.fetchOutside machine.core.memory.programCounter) machine.core := by
  simp only [Core.fetch, Memory.fetch_eq_error outside]

theorem leftByFault_of_error
    (wellFormed : machine.core.WellFormed) (clock : machine.core.ClockDefined readings)
    {fault : Fault} (raised : machine.step readings = .error fault after) :
    machine.LeftByFault after := by
  have cycle := cycle_of_wellFormed wellFormed readings
  rw [raised] at cycle
  cases cycle with
  | waitedUnseen _ unviewed =>
      obtain ⟨view, viewed⟩ := Core.view_of_ticksDefined clock.toSnapshot
      rw [viewed] at unviewed
      cases unviewed
  | outside _ beyond =>
      refine ⟨rfl, rfl, rfl, rfl, rfl, rfl, rfl, rfl, rfl, rfl, rfl, rfl, ?_, ?_, fun _ => rfl⟩
      · rw [fetch_of_outside beyond]
        rfl
      · rintro ⟨inside, -⟩
        simp only [Memory.instructionSize, Memory.reservedStart] at beyond
        omega
  | undecoded fetches decoded =>
      refine ⟨rfl, rfl, rfl, rfl, rfl, rfl, rfl, rfl, rfl, rfl, rfl, rfl, ?_, ?_, fun _ => rfl⟩
      · rw [fetch_of_fetches wellFormed fetches]
        rfl
      · rintro ⟨-, call, -⟩
        exact absurd call ((Instruction.decode_eq_error_iff.mp decoded).1 .call)
  | @refused instruction _ reaches met =>
      have pushed := Instruction.stack_residue_of_callsOutside reaches
      have kept := Instruction.stack_residue_of_not_callsOutside wellFormed reaches met
      obtain ⟨stack, left⟩ := instruction.residue_eq machine.core.fetched
      rw [left] at pushed kept ⊢
      refine ⟨rfl, rfl, rfl, rfl, rfl, rfl, rfl, rfl, rfl, rfl, rfl, rfl, ?_, ?_, kept⟩
      · rw [fetch_of_fetches wellFormed reaches.toFetches]
        rfl
      · intro calls
        exact congrArg CallStack.frames (pushed calls)
  | @unseen instruction _ _ _ unviewed =>
      obtain ⟨view, viewed⟩ := Core.view_completed clock instruction
      rw [viewed] at unviewed
      cases unviewed

/-- A cycle cannot move a program counter that lies behind the last word. -/
theorem counter_cycle_of_beyond
    {result : EStateM.Result Fault Machine (Snapshot RegisterView)}
    (beyond : 0xE9F ≤ machine.core.memory.programCounter)
    (cycle : machine.Cycle readings result) :
    (stateOf result).core.memory.programCounter = machine.core.memory.programCounter := by
  have nothing : ¬ machine.core.Fetches := by
    intro fetches
    have inside := fetches.counter_le
    omega
  cases cycle with
  | waited => rfl
  | waitedUnseen => rfl
  | outside => rfl
  | undecoded fetches => exact absurd fetches nothing
  | refused reaches => exact absurd reaches.toFetches nothing
  | completed reaches => exact absurd reaches.toFetches nothing
  | unseen reaches => exact absurd reaches.toFetches nothing

/-- Only a reset can. -/
theorem counter_after_of_beyond
    (wellFormed : machine.core.WellFormed)
    (beyond : 0xE9F ≤ machine.core.memory.programCounter)
    {event : HostEvent} (noReset : ∀ now, event ≠ .reset now) :
    (machine.after event).core.memory.programCounter = machine.core.memory.programCounter := by
  rcases machine.after_cases event with
    ⟨now, reset, -⟩ | ⟨readings, -, left⟩ | ⟨ram, keypad, runState, left⟩
  · exact absurd reset (noReset now)
  · rw [left]
    exact counter_cycle_of_beyond beyond (cycle_of_wellFormed wellFormed readings)
  · rw [left]

theorem counter_run_of_beyond
    (reachable : machine.Reachable) (beyond : 0xE9F ≤ machine.core.memory.programCounter)
    (events : List HostEvent) (noReset : ∀ now, .reset now ∉ events) :
    (machine.run events).Reachable ∧
      (machine.run events).core.memory.programCounter = machine.core.memory.programCounter := by
  induction events using List.reverseRecOn with
  | nil => exact ⟨reachable, rfl⟩
  | append_singleton events event inductionHypothesis =>
      obtain ⟨still, same⟩ := inductionHypothesis fun now membership =>
        noReset now (List.mem_append_left [event] membership)
      have other : ∀ now, event ≠ .reset now := by
        rintro now rfl
        exact noReset now (by simp)
      have moved := counter_after_of_beyond (wellFormed_of_reachable still) (same ▸ beyond) other
      rw [run_append]
      exact ⟨reachable_after still event, moved.trans same⟩

/--
A failed cycle is undone but for the passage of the word and the return address
of an invalid call.  Behind the last word nothing but a reset helps: whatever
else the host does, every cycle that does not wait for a key fails in place.
-/
theorem fault_leaves_machine (reachable : machine.Reachable) :
    (∀ readings fault after, machine.core.ClockDefined readings →
      machine.step readings = .error fault after → machine.LeftByFault after) ∧
    (0xE9F ≤ machine.core.memory.programCounter →
      ∀ events : List HostEvent, (∀ now, .reset now ∉ events) →
        (machine.run events).core.memory.programCounter = machine.core.memory.programCounter ∧
        ∀ readings, (machine.run events).core.runState ≠ .awaitingKey →
          ∃ fault after, (machine.run events).step readings = .error fault after ∧
            fault.kind = .addressRange ∧
            after.core.memory.programCounter = machine.core.memory.programCounter) := by
  constructor
  · intro readings fault after clock raised
    exact leftByFault_of_error (wellFormed_of_reachable reachable) clock raised
  · intro beyond events noReset
    obtain ⟨-, same⟩ := counter_run_of_beyond reachable beyond events noReset
    refine ⟨same, ?_⟩
    intro readings ready
    exact ⟨_, _, step_outside ready (Core.outside_of_le (same ▸ beyond)), rfl, same⟩

/-- A jump to the end of the program area is taken, and the cycle after it fails. -/
theorem fault_leaves_machine_at_end :
    let machine := unloaded.run [.load [0x1E, 0xA0], .step (.still .zero)]
    0xE9F ≤ machine.core.memory.programCounter ∧ machine.core.ClockDefined (.still .zero) ∧
      ∃ fault after, machine.step (.still .zero) = .error fault after ∧
        fault.kind = .addressRange ∧ machine.LeftByFault after := by
  intro machine
  obtain ⟨beyond, reference, ready⟩ : 0xE9F ≤ machine.core.memory.programCounter ∧
      machine.core.delay.reference = .finite false 0 Binary64.leastExponent ∧
      machine.core.runState ≠ .awaitingKey := by
    decide +kernel
  have clock : machine.core.ClockDefined (.still .zero) := Core.clockDefined_still reference
  have reachable : machine.Reachable := reachable_run_unloaded _
  clear_value machine
  obtain ⟨left, stuck⟩ := fault_leaves_machine reachable
  obtain ⟨-, fails⟩ := stuck beyond [] (by simp)
  obtain ⟨fault, after, raised, kind, -⟩ := fails (.still .zero) ready
  exact ⟨beyond, clock, fault, after, raised, kind, left _ fault after clock raised⟩

end Machine

end Chip8
