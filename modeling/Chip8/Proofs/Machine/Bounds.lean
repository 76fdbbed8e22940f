import Chip8.Proofs.Machine.Clock
import Chip8.Proofs.Machine.Invariant
import Mathlib
/-!
Bounds that hold in every run of a machine, whatever its dialect, its program
and its host.  The program counter can lie behind the end of the program area,
but only as long as nothing has moved it since a skip at the very end.
-/

namespace Chip8

open Numeric (Binary64)

namespace Core

/-- The machine has this dialect, and a screen of the size that the dialect names. -/
structure BuiltFor (core : Core) (wanted : Dialect) : Prop where
  dialect : core.dialect = wanted
  width : core.display.askedWidth = wanted.displayWidth
  height : core.display.askedHeight = wanted.displayHeight

theorem BuiltFor.of_same
    {core changed : Core} {wanted : Dialect} (built : core.BuiltFor wanted)
    (dialect : changed.dialect = core.dialect)
    (width : changed.display.askedWidth = core.display.askedWidth)
    (height : changed.display.askedHeight = core.display.askedHeight) :
    changed.BuiltFor wanted :=
  ⟨dialect.trans built.dialect, width.trans built.width, height.trans built.height⟩

theorem BuiltFor.completed
    {core : Core} {wanted : Dialect} (built : core.BuiltFor wanted)
    (instruction : Instruction) (now : Binary64) :
    (core.completed instruction now).BuiltFor wanted :=
  built.of_same rfl (instruction.askedSize_nextDisplay core.fetched).1
    (instruction.askedSize_nextDisplay core.fetched).2

theorem BuiltFor.reset
    {core : Core} {wanted : Dialect} (built : core.BuiltFor wanted) (now : Binary64) :
    (core.reset now).BuiltFor wanted := by
  unfold Core.reset
  exact ⟨built.dialect, built.width, built.height⟩

/-- The next instruction lies at the very end of the program area and skips the one behind it. -/
structure SkipsAtEnd (core : Core) (instruction : Instruction) : Prop
    extends core.Reaches instruction where
  atEnd : core.memory.programCounter = 0xE9D ∨ core.memory.programCounter = 0xE9E
  skips : instruction.skips core.fetched = true

end Core

namespace Machine

variable {machine start : Machine} {wanted : Dialect}

theorem builtFor_cycle
    {readings : Readings} {result : EStateM.Result Fault Machine (Snapshot RegisterView)}
    (built : machine.core.BuiltFor wanted) (cycle : machine.Cycle readings result) :
    (stateOf result).core.BuiltFor wanted := by
  cases cycle with
  | @refused instruction =>
      obtain ⟨stack, left⟩ := instruction.residue_eq machine.core.fetched
      simp only [stateOf, left]
      exact built.of_same rfl rfl rfl
  | completed => exact built.completed _ _
  | unseen => exact built.completed _ _
  | _ => exact built.of_same rfl rfl rfl

theorem builtFor_after
    (event : HostEvent) (wellFormed : machine.core.WellFormed)
    (built : machine.core.BuiltFor wanted) :
    (machine.after event).core.BuiltFor wanted := by
  rcases machine.after_cases event with
    ⟨now, -, left⟩ | ⟨readings, -, left⟩ | ⟨ram, keypad, runState, left⟩
  · rw [left]
    exact built.reset now
  · rw [left]
    exact builtFor_cycle built (cycle_of_wellFormed wellFormed readings)
  · rw [left]
    exact built.of_same rfl rfl rfl

/-- A machine never changes its dialect or the size of its screen. -/
theorem builtFor_run
    {dialect : Dialect} {random : Random.Source} {now : Binary64}
    (created : create dialect random now = .ok start) (events : List HostEvent) :
    (start.run events).core.BuiltFor dialect := by
  induction events using List.reverseRecOn with
  | nil =>
      obtain ⟨display, made, rfl⟩ := exists_of_create created
      obtain ⟨width, height⟩ := Display.askedSize_of_create made
      exact ⟨rfl, width, height⟩
  | append_singleton events event inductionHypothesis =>
      have wellFormed := wellFormed_run created events
      rw [run_append]
      exact builtFor_after event wellFormed inductionHypothesis

/-- All screens of a run are of one size. -/
theorem clear_run
    {dialect : Dialect} {random : Random.Source} {now : Binary64}
    (created : create dialect random now = .ok start) (events : List HostEvent) :
    (start.run events).core.display.clear = start.core.display.clear := by
  have later := builtFor_run created events
  have first := builtFor_run created []
  exact Display.clear_congr (later.width.trans first.width.symm)
    (later.height.trans first.height.symm)

theorem builtFor_of_reachable (reachable : machine.Reachable) :
    machine.core.BuiltFor machine.core.dialect := by
  obtain ⟨dialect, random, now, start, events, created, rfl⟩ := reachable
  have built := builtFor_run created events
  rw [built.dialect]
  exact built

theorem dialect_run (reachable : machine.Reachable) (events : List HostEvent) :
    (machine.run events).core.dialect = machine.core.dialect := by
  obtain ⟨dialect, random, now, start, before, created, rfl⟩ := reachable
  rw [← run_append, (builtFor_run created (before ++ events)).dialect,
    (builtFor_run created before).dialect]

theorem dialect_after (reachable : machine.Reachable) (event : HostEvent) :
    (machine.after event).core.dialect = machine.core.dialect :=
  dialect_run reachable [event]

/-- The last operation that has moved the program counter was a skip at the very end. -/
def EndedInSkip (start : Machine) (events : List HostEvent) : Prop :=
  ∃ before readings further instruction,
    events = before ++ .step readings :: further ∧
      (start.run before).core.SkipsAtEnd instruction ∧
      ∀ passed, passed <+: further →
        (start.run (before ++ .step readings :: passed)).core.memory.programCounter =
          (start.run before).core.memory.programCounter + 4

/-- How a cycle can leave the program counter behind the end of the program area. -/
theorem counter_cycle
    {readings : Readings} {result : EStateM.Result Fault Machine (Snapshot RegisterView)}
    (wellFormed : machine.core.WellFormed) (cycle : machine.Cycle readings result)
    (beyond : 0xEA0 < (stateOf result).core.memory.programCounter) :
    (stateOf result).core.memory.programCounter = machine.core.memory.programCounter ∨
      ∃ instruction, machine.core.SkipsAtEnd instruction ∧
        (stateOf result).core.memory.programCounter = machine.core.memory.programCounter + 4 := by
  have moved := machine.core.counter_fetched
  have carriedOut {instruction : Instruction}
      (reaches : machine.core.Reaches instruction)
      (accepted : instruction.fault? readings.execution machine.core.fetched = none)
      (past : 0xEA0 < instruction.nextCounter machine.core.fetched) :
      machine.core.SkipsAtEnd instruction ∧
        instruction.nextCounter machine.core.fetched =
          machine.core.memory.programCounter + 4 := by
    have behind := wellFormed.behindFetch reaches.toFetches
    have high := behind.2
    rcases (Instruction.nextCounter_mem_range behind accepted).2 with inside | ⟨skips, next⟩
    · omega
    · exact ⟨⟨reaches, by omega, skips⟩, by omega⟩
  cases cycle with
  | waited => exact .inl rfl
  | waitedUnseen => exact .inl rfl
  | outside => exact .inl rfl
  | undecoded fetches =>
      have inside := (wellFormed.behindFetch fetches).2
      simp only [stateOf] at beyond
      omega
  | @refused instruction _ reaches =>
      have inside := (wellFormed.behindFetch reaches.toFetches).2
      obtain ⟨stack, left⟩ := instruction.residue_eq machine.core.fetched
      simp only [stateOf, left] at beyond
      omega
  | completed reaches accepted => exact .inr ⟨_, carriedOut reaches accepted beyond⟩
  | unseen reaches accepted => exact .inr ⟨_, carriedOut reaches accepted beyond⟩

theorem counter_after
    (event : HostEvent) (wellFormed : machine.core.WellFormed)
    (beyond : 0xEA0 < (machine.after event).core.memory.programCounter) :
    (machine.after event).core.memory.programCounter = machine.core.memory.programCounter ∨
      ∃ readings instruction, event = .step readings ∧ machine.core.SkipsAtEnd instruction ∧
        (machine.after event).core.memory.programCounter =
          machine.core.memory.programCounter + 4 := by
  rcases machine.after_cases event with
    ⟨now, -, left⟩ | ⟨readings, same, left⟩ | ⟨ram, keypad, runState, left⟩
  · have start : (machine.reset now).core.memory.programCounter = 0x200 := rfl
    rw [left, start] at beyond
    omega
  · rw [left] at beyond ⊢
    have cycle := cycle_of_wellFormed wellFormed readings
    rcases counter_cycle wellFormed cycle beyond with kept | ⟨instruction, skipped⟩
    · exact .inl kept
    · exact .inr ⟨readings, instruction, same, skipped⟩
  · rw [left]
    exact .inl rfl

/-- An operation that does not move the program counter prolongs the time behind the end. -/
theorem EndedInSkip.prolong
    {events : List HostEvent} (ended : start.EndedInSkip events) {event : HostEvent}
    (same : (start.run (events ++ [event])).core.memory.programCounter =
      (start.run events).core.memory.programCounter) :
    start.EndedInSkip (events ++ [event]) := by
  obtain ⟨before, readings, further, instruction, rfl, skips, stays⟩ := ended
  refine ⟨before, readings, further ++ [event], instruction, by simp, skips, ?_⟩
  intro passed within
  rcases List.prefix_concat_iff.mp within with rfl | earlier
  · rw [List.append_assoc, List.cons_append] at same
    rw [same]
    exact stays further (List.prefix_refl further)
  · exact stays passed earlier

theorem endedInSkip_of_beyond
    {dialect : Dialect} {random : Random.Source} {now : Binary64}
    (created : create dialect random now = .ok start) (events : List HostEvent)
    (beyond : 0xEA0 < (start.run events).core.memory.programCounter) :
    start.EndedInSkip events := by
  induction events using List.reverseRecOn with
  | nil =>
      obtain ⟨display, -, rfl⟩ := exists_of_create created
      have atStart : (Core.initial dialect display random now).memory.programCounter = 0x200 := rfl
      rw [run_nil, atStart] at beyond
      omega
  | append_singleton events event inductionHypothesis =>
      have last : start.run (events ++ [event]) = (start.run events).after event :=
        run_append start events [event]
      have wellFormed := wellFormed_run created events
      rw [last] at beyond
      rcases counter_after event wellFormed beyond with
        same | ⟨readings, instruction, rfl, skips, moved⟩
      · rw [same] at beyond
        exact (inductionHypothesis beyond).prolong (last ▸ same)
      · refine ⟨events, readings, [], instruction, rfl, skips, ?_⟩
        intro passed within
        rw [List.prefix_nil.mp within, ← moved, ← last]

/-- The bounds of a machine of a dialect. -/
structure WithinBounds (machine : Machine) (dialect : Dialect) : Prop where
  /-- There are 4096 cells of a byte each. -/
  cells : machine.core.memory.ram.cells.toList.length = 4096 ∧
    ∀ cell ∈ machine.core.memory.ram.cells.toList, cell.toNat ≤ 255
  /-- There are sixteen registers of a byte each. -/
  registers : machine.core.registers.values.size = 16 ∧
    ∀ value ∈ machine.core.registers.values, value.toNat ≤ 255
  index : 0 ≤ machine.core.memory.index ∧ machine.core.memory.index ≤ 0xFFF
  stack : machine.core.stack.depth ≤ 16 ∧
    ∀ address ∈ machine.core.stack.frames, 0x202 ≤ address ∧ address ≤ 0xEA0
  counter : 0x200 ≤ machine.core.memory.programCounter ∧
    machine.core.memory.programCounter ≤ 0xEA2
  delay : machine.core.delay.value.toNat ≤ 255
  /-- The delay timer can be looked at whenever its ticks can be counted. -/
  peeked : ∀ now, DelayTimer.TicksDefined machine.core.delay.reference now →
    ∃ value, machine.core.delay.peek now = .ok value ∧
      value.toNat ≤ machine.core.delay.value.toNat
  sound : machine.core.sound.value.toNat ≤ 255
  keys : machine.core.keypad.keys.toList.length = 16
  sameDialect : machine.core.dialect = dialect
  /-- The screen has kept its size, and has one cell for each of its places. -/
  screen : machine.core.display.width = dialect.displayWidth.count ∧
    machine.core.display.height = dialect.displayHeight.count ∧
    machine.core.display.cells.size = dialect.displayWidth.count * dialect.displayHeight.count
  /-- A word is fetched from below the reserved part only. -/
  fetched : ∀ word core, Core.fetch machine.core = .ok word core →
    0x200 ≤ machine.core.memory.programCounter ∧
      machine.core.memory.programCounter + 2 ≤ 0xEA0 ∧ word = machine.core.nextWord

theorem fetched_of_wellFormed
    (wellFormed : machine.core.WellFormed) {word : Int} {core : Core}
    (read : Core.fetch machine.core = .ok word core) :
    0x200 ≤ machine.core.memory.programCounter ∧
      machine.core.memory.programCounter + 2 ≤ 0xEA0 ∧ word = machine.core.nextWord := by
  have low := wellFormed.counterLow
  by_cases outside : Memory.reservedStart <
      machine.core.memory.programCounter + Memory.instructionSize
  · rw [Core.fetch, Memory.fetch_eq_error outside] at read
    cases read
  · rw [Core.fetch, Memory.fetch_eq_ok (by omega) (Int.not_lt.mp outside)] at read
    cases read
    exact ⟨low, Int.not_lt.mp outside, rfl⟩

theorem withinBounds_of_invariants
    {dialect : Dialect} (wellFormed : machine.core.WellFormed)
    (built : machine.core.BuiltFor dialect) :
    machine.WithinBounds dialect where
  cells := ⟨by rw [Vector.length_toList]; rfl, fun cell _ => by have := cell.toNat_lt; omega⟩
  registers := ⟨wellFormed.sixteen, fun value _ => by have := value.toNat_lt; omega⟩
  index := ⟨wellFormed.indexNonneg, Int.lt_add_one_iff.mp wellFormed.indexSmall⟩
  stack := ⟨wellFormed.shallow, wellFormed.frames⟩
  counter := ⟨wellFormed.counterLow, wellFormed.counterHigh⟩
  delay := by have := machine.core.delay.value.toNat_lt; omega
  peeked := by
    intro now defined
    obtain ⟨value, peeked, lower⟩ := DelayTimer.peek_of_ticksDefined defined
    exact ⟨value, peeked, UInt8.le_iff_toNat_le.mp lower⟩
  sound := by have := machine.core.sound.value.toNat_lt; omega
  keys := by simp
  sameDialect := built.dialect
  screen := by
    have size := machine.core.display.size_eq
    simp only [Display.width, Display.height, size, built.width, built.height, and_self]
  fetched := by
    intro word core read
    exact fetched_of_wellFormed wellFormed read

/--
In every run every bound holds, and the program counter lies behind the end of
the program area only after a skip at the very end.
-/
theorem run_withinBounds
    {dialect : Dialect} {random : Random.Source} {now : Binary64}
    (created : create dialect random now = .ok start) (events : List HostEvent) :
    (start.run events).WithinBounds dialect ∧
      (0xEA0 < (start.run events).core.memory.programCounter → start.EndedInSkip events) := by
  refine ⟨?_, endedInSkip_of_beyond created events⟩
  exact withinBounds_of_invariants (wellFormed_run created events) (builtFor_run created events)

theorem run_withinBounds_loop :
    (unloaded.run [.load [0x12, 0x00], .step (.still .zero)]).WithinBounds Mode.modern.dialect ∧
      (0xEA0 < (unloaded.run [.load [0x12, 0x00],
          .step (.still .zero)]).core.memory.programCounter →
        unloaded.EndedInSkip [.load [0x12, 0x00], .step (.still .zero)]) :=
  run_withinBounds create_unloaded [.load [0x12, 0x00], .step (.still .zero)]

end Machine

end Chip8
