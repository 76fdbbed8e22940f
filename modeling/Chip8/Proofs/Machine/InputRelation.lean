import Chip8.Proofs.Instruction.Inputs
import Chip8.Proofs.Machine.Cycle
import Chip8.Proofs.Machine.Run
import Mathlib
/-!
Cycles of two machines whose inputs differ.  The machines agree on everything
else, and a relation says how far their inputs may differ.  A cycle keeps all
this, and has the same outcome for both, as long as the instruction that it
carries out reads nothing in which they differ.
-/

namespace Chip8

open Numeric (Binary64)

/-- Two results are both values or both the same fault, in related states. -/
inductive Outcomes {State Value : Type} (values : Value → Value → Prop)
    (states : State → State → Prop) :
    EStateM.Result Fault State Value → EStateM.Result Fault State Value → Prop where
  | ok {leftValue rightValue left right} :
      values leftValue rightValue → states left right →
      Outcomes values states (.ok leftValue left) (.ok rightValue right)
  | error {fault left right} :
      states left right →
      Outcomes values states (.error fault left) (.error fault right)

/-- The states that related outcomes leave are related. -/
theorem Machine.related_of_outcomes
    {Value : Type} {values : Value → Value → Prop} {states : Machine → Machine → Prop}
    {leftResult rightResult : EStateM.Result Fault Machine Value}
    (outcomes : Outcomes values states leftResult rightResult) :
    states (stateOf leftResult) (stateOf rightResult) := by
  cases outcomes with
  | ok _ related => exact related
  | error related => exact related

/-- The relation of the states may be replaced by what it says about these two. -/
theorem Machine.outcomes_of_states
    {Value : Type} {values : Value → Value → Prop} {states further : Machine → Machine → Prop}
    {leftResult rightResult : EStateM.Result Fault Machine Value}
    (outcomes : Outcomes values states leftResult rightResult)
    (next : states (stateOf leftResult) (stateOf rightResult) →
      further (stateOf leftResult) (stateOf rightResult)) :
    Outcomes values further leftResult rightResult := by
  cases outcomes with
  | ok same related => exact .ok same (next related)
  | error related => exact .error (next related)

/-- How the inputs of two cores may differ; the shared ones have to be the same for both. -/
structure InputRelation where
  shared : Set Input
  timers : DelayTimer → DelayTimer → Prop
  keypads : Keypad → Keypad → Prop
  sources : Random.Source → Random.Source → Prop
  timers_iff : .clock ∈ shared → ∀ {left right}, timers left right ↔ right = left
  keypads_iff : .keys ∈ shared → ∀ {left right}, keypads left right ↔ right = left
  sources_iff : .random ∈ shared → ∀ {left right}, sources left right ↔ right = left

/-- The right core is the left one with other inputs, which are related to those of the left. -/
structure Core.Related (relation : InputRelation) (left right : Core) : Prop where
  same : right = left.withInputs right.inputs
  timers : relation.timers left.delay right.delay
  keypads : relation.keypads left.keypad right.keypad
  sources : relation.sources left.random right.random

namespace Core

variable {relation : InputRelation} {left right : Core}

/-- Two actions on two cores have the same outcome and leave related cores. -/
abbrev ActAlike (relation : InputRelation) {Value : Type} (left right : Core)
    (leftAction rightAction : Action Value) : Prop :=
  Outcomes Eq (Related relation) (leftAction left) (rightAction right)

theorem Related.of_kept
    (related : left.Related relation right) {next : Core}
    (kept : next = next.withInputs left.inputs) :
    next.Related relation (next.withInputs right.inputs) := by
  refine ⟨rfl, ?_, ?_, ?_⟩ <;> rw [kept]
  · exact related.timers
  · exact related.keypads
  · exact related.sources

theorem actAlike_of_ignores
    {Value : Type} {action : Action Value} (ignores : Action.Ignores action)
    (related : left.Related relation right) : ActAlike relation left right action action := by
  have onRight := ignores left right.inputs
  have onLeft := ignores left left.inputs
  -- with the inputs that the left core has, it says that the action keeps them
  rw [withInputs_inputs] at onLeft
  rw [← related.same] at onRight
  rw [ActAlike, onRight]
  cases acted : action left with
  | ok value next =>
      rw [acted] at onLeft
      injection onLeft with _ kept
      exact .ok rfl (related.of_kept kept)
  | error fault next =>
      rw [acted] at onLeft
      injection onLeft with _ kept
      exact .error (related.of_kept kept)

theorem Related.exists_inputs (related : left.Related relation right) :
    ∃ inputs : Inputs, right = left.withInputs inputs ∧
      relation.timers left.delay inputs.delay ∧ relation.keypads left.keypad inputs.keypad ∧
      relation.sources left.random inputs.random :=
  ⟨right.inputs, related.same, related.timers, related.keypads, related.sources⟩

theorem actAlike_drawRandom
    (related : left.Related relation right) (shared : .random ∈ relation.shared)
    (x : Fin 16) (mask : UInt8) :
    ActAlike relation left right (modify (·.drawRandom x mask)) (modify (·.drawRandom x mask)) := by
  obtain ⟨inputs, rfl, timers, keypads, sources⟩ := related.exists_inputs
  have same := (relation.sources_iff shared).mp sources
  have drawn : (left.withInputs inputs).random = left.random := same
  refine .ok rfl ⟨?_, timers, keypads, ?_⟩
  · simp only [drawRandom, drawn]
    rfl
  · simp only [drawRandom, drawn]
    exact (relation.sources_iff shared).mpr rfl

/-- A number that names no key is refused whatever keys are down. -/
theorem actAlike_skipOnKey
    (related : left.Related relation right) (x : Fin 16) (wanted : Bool)
    (shared : (left.register x).toNat < 16 → .keys ∈ relation.shared) :
    ActAlike relation left right (attempt (·.skipOnKey x wanted))
      (attempt (·.skipOnKey x wanted)) := by
  obtain ⟨inputs, rfl, timers, keypads, sources⟩ := related.exists_inputs
  have register : (left.withInputs inputs).register x = left.register x := rfl
  have asked : (left.withInputs inputs).keypad.isDown (left.register x).toNat =
      left.keypad.isDown (left.register x).toNat := by
    by_cases names : (left.register x).toNat < 16
    · have same : (left.withInputs inputs).keypad = left.keypad :=
        (relation.keypads_iff (shared names)).mp keypads
      rw [same]
    · rw [Keypad.isDown_eq_error names, Keypad.isDown_eq_error names]
  unfold ActAlike
  simp only [attempt, skipOnKey, register, asked]
  cases left.keypad.isDown (left.register x).toNat with
  | ok down =>
      refine .ok rfl ?_
      cases decided : down == wanted
      · exact ⟨rfl, timers, keypads, sources⟩
      · exact ⟨rfl, timers, keypads, sources⟩
  | error fault => exact .error related

theorem actAlike_awaitKey
    (related : left.Related relation right) (shared : .keys ∈ relation.shared) (x : Fin 16) :
    ActAlike relation left right (modify (·.awaitKey x)) (modify (·.awaitKey x)) := by
  obtain ⟨inputs, rfl, timers, keypads, sources⟩ := related.exists_inputs
  have same : (left.withInputs inputs).keypad = left.keypad :=
    (relation.keypads_iff shared).mp keypads
  refine .ok rfl ?_
  simp only [awaitKey, same]
  cases left.keypad.firstDown? with
  | some key => exact ⟨rfl, timers, keypads, sources⟩
  | none => exact ⟨rfl, timers, (relation.keypads_iff shared).mpr rfl, sources⟩

theorem actAlike_readDelay
    (related : left.Related relation right) (shared : .clock ∈ relation.shared)
    (x : Fin 16) (now : Binary64) :
    ActAlike relation left right (attempt (·.readDelay x now)) (attempt (·.readDelay x now)) := by
  obtain ⟨inputs, rfl, timers, keypads, sources⟩ := related.exists_inputs
  have same : (left.withInputs inputs).delay = left.delay :=
    (relation.timers_iff shared).mp timers
  unfold ActAlike
  simp only [attempt, readDelay, same]
  cases left.delay.load now with
  | ok delay => exact .ok rfl ⟨rfl, (relation.timers_iff shared).mpr rfl, keypads, sources⟩
  | error fault => exact .error related

theorem actAlike_setDelay
    (related : left.Related relation right) (x : Fin 16) {leftNow rightNow : Binary64}
    (stored : ∀ value, relation.timers (.store value leftNow) (.store value rightNow)) :
    ActAlike relation left right (modify (·.setDelay x leftNow))
      (modify (·.setDelay x rightNow)) := by
  obtain ⟨inputs, rfl, timers, keypads, sources⟩ := related.exists_inputs
  exact .ok rfl ⟨rfl, stored _, keypads, sources⟩

end Core

/-- An instruction that reads nothing but shared inputs does the same to related cores. -/
theorem Instruction.actAlike_execute
    {relation : InputRelation} {left right : Core} {leftNow rightNow : Binary64}
    (instruction : Instruction) (related : left.Related relation right)
    (sameTime : .clock ∈ relation.shared → rightNow = leftNow)
    (stored : ∀ value, relation.timers (.store value leftNow) (.store value rightNow))
    (read : ∀ input, instruction.input? left = some input → input ∈ relation.shared) :
    Core.ActAlike relation left right (instruction.execute leftNow)
      (instruction.execute rightNow) := by
  by_cases other : instruction.opcode ∉
      [Opcode.readDelay, .setDelay, .random, .awaitKey, .skipDown, .skipUp]
  · have sameAction : instruction.execute leftNow = instruction.execute rightNow := by
      unfold execute
      cases opcode : instruction.opcode
      case readDelay | setDelay => exact absurd (by simp [opcode]) other
      all_goals rfl
    rw [sameAction]
    exact Core.actAlike_of_ignores (instruction.ignores_execute rightNow other) related
  -- what is left are the instructions that read or set an input
  unfold input? at read
  simp only [List.mem_cons, List.not_mem_nil, or_false, not_not] at other
  unfold execute
  rcases other with opcode | opcode | opcode | opcode | opcode | opcode <;>
    simp only [opcode] at read ⊢
  · rw [sameTime (read .clock rfl)]
    exact Core.actAlike_readDelay related (read .clock rfl) instruction.x leftNow
  · exact Core.actAlike_setDelay related instruction.x stored
  · exact Core.actAlike_drawRandom related (read .random rfl) instruction.x instruction.byte
  · exact Core.actAlike_awaitKey related (read .keys rfl) instruction.x
  · exact Core.actAlike_skipOnKey related instruction.x true fun names => read .keys (if_pos names)
  · exact Core.actAlike_skipOnKey related instruction.x false fun names => read .keys (if_pos names)

/-- What a relation has to allow so that the clocks may be read in two cycles. -/
structure InputRelation.Allows (relation : InputRelation) (left right : Readings) : Prop where
  same : .clock ∈ relation.shared → right = left
  stored : ∀ value,
    relation.timers (.store value left.execution) (.store value right.execution)
  shown : .clock ∉ relation.shared → ∀ {leftTimer rightTimer},
    relation.timers leftTimer rightTimer →
    (∃ value, leftTimer.peek left.snapshot = .ok value) ∧
      ∃ value, rightTimer.peek right.snapshot = .ok value

/-- Two views are the same, but for the delay timer if the clocks need not agree. -/
structure RegisterView.Alike (shared : Set Input) (left right : RegisterView) : Prop where
  rest : right = { left with delay := right.delay }
  delay : .clock ∈ shared → right.delay = left.delay

/-- Two snapshots are the same, but for the delay timer if the clocks need not agree. -/
structure Snapshot.Alike (shared : Set Input) (left right : Snapshot RegisterView) : Prop where
  rest : right = { left with view := right.view }
  view : left.view.Alike shared right.view

namespace Core

variable {relation : InputRelation} {left right : Core} {leftReadings rightReadings : Readings}

/-- The instruction that a cycle fetches, and then carries out or fails to. -/
def executed? (core : Core) : Option Instruction :=
  if core.runState = .awaitingKey then none
  else
    match core.memory.fetch with
    | .ok word _ => (Instruction.decode word).toOption
    | .error _ _ => none

theorem executed?_of_reaches
    {core : Core} (counterNonneg : 0 ≤ core.memory.programCounter) {instruction : Instruction}
    (reaches : core.Reaches instruction) : core.executed? = some instruction := by
  have decoded : Instruction.decode (core.memory.wordAt core.memory.programCounter) =
      .ok instruction := reaches.decoded
  simp only [executed?, if_neg reaches.ready, Memory.fetch_eq_ok counterNonneg reaches.inside,
    decoded, Except.toOption]

/-- The input that a cycle reads, if any. -/
def inputRead? (core : Core) : Option Input :=
  core.executed?.bind (·.input? core)

theorem view_alike
    (related : left.Related relation right)
    (allows : relation.Allows leftReadings rightReadings) :
    (∃ leftView rightView, left.view leftReadings.snapshot = .ok leftView ∧
      right.view rightReadings.snapshot = .ok rightView ∧
      leftView.Alike relation.shared rightView) ∨
    ∃ fault, left.view leftReadings.snapshot = .error fault ∧
      right.view rightReadings.snapshot = .error fault := by
  obtain ⟨inputs, rfl, timers, -, -⟩ := related.exists_inputs
  have moved : (left.withInputs inputs).delay = inputs.delay := rfl
  simp only [view, moved]
  by_cases shared : .clock ∈ relation.shared
  · rw [allows.same shared, (relation.timers_iff shared).mp timers]
    cases left.delay.peek leftReadings.snapshot with
    | ok delay => exact .inl ⟨_, _, rfl, rfl, rfl, fun _ => rfl⟩
    | error fault => exact .inr ⟨fault, rfl, rfl⟩
  · obtain ⟨⟨leftDelay, leftShown⟩, rightDelay, rightShown⟩ := allows.shown shared timers
    rw [leftShown, rightShown]
    exact .inl ⟨_, _, rfl, rfl, rfl, fun wanted => absurd wanted shared⟩

theorem carryOut_eq (core : Core) (readings : Readings) :
    (architecture readings).carryOut core =
      match core.memory.fetch with
      | .error fault memory => .error fault { core with memory }
      | .ok word memory =>
          match Instruction.decode word with
          | .error fault => .error fault { core with memory }
          | .ok instruction =>
              match instruction.execute readings.execution { core with memory } with
              | .error fault next => .error fault next
              | .ok _ next =>
                  .ok (instruction.operation next.dialect.jumpsByX)
                    { next with sound := next.sound.decrease } := by
  have unfolded :
      (architecture readings).carryOut =
        (fetch >>= fun word => decode word >>= fun instruction =>
          instruction.execute readings.execution >>= fun _ =>
            (architecture readings).finish >>= fun _ =>
              (architecture readings).describe instruction) := rfl
  rw [unfolded]
  simp only [bind, EStateM.bind, fetch]
  cases core.memory.fetch with
  | error fault memory => rfl
  | ok word memory =>
      simp only [decode]
      cases Instruction.decode word with
      | error fault => rfl
      | ok instruction =>
          simp only
          cases instruction.execute readings.execution { core with memory } <;> rfl

theorem actAlike_carryOut
    (related : left.Related relation right)
    (allows : relation.Allows leftReadings rightReadings)
    (ready : left.runState ≠ .awaitingKey)
    (reads : ∀ input, left.inputRead? = some input → input ∈ relation.shared) :
    ActAlike relation left right (architecture leftReadings).carryOut
      (architecture rightReadings).carryOut := by
  rw [ActAlike, carryOut_eq, carryOut_eq]
  obtain ⟨inputs, rfl, timers, keypads, sources⟩ := related.exists_inputs
  have memory : (left.withInputs inputs).memory = left.memory := rfl
  rw [memory]
  cases fetched : left.memory.fetch with
  | error fault memory => exact .error ⟨rfl, timers, keypads, sources⟩
  | ok word memory =>
      have related : ({ left with memory } : Core).Related relation
          { left.withInputs inputs with memory } := ⟨rfl, timers, keypads, sources⟩
      simp only
      cases decoded : Instruction.decode word with
      | error fault => exact .error related
      | ok instruction =>
          have found : left.executed? = some instruction := by
            simp only [executed?, if_neg ready, fetched, decoded, Except.toOption]
          have executed := instruction.actAlike_execute related
            (fun shared => congrArg Readings.execution (allows.same shared)) allows.stored
            (fun input read => reads input (by rw [inputRead?, found]; exact read))
          unfold ActAlike at executed
          simp only
          generalize instruction.execute leftReadings.execution { left with memory } =
            leftResult at executed ⊢
          generalize instruction.execute rightReadings.execution
            { left.withInputs inputs with memory } = rightResult at executed ⊢
          cases executed with
          | error related => exact .error related
          | ok _ related =>
              obtain ⟨inputs, rfl, timers, keypads, sources⟩ := related.exists_inputs
              exact .ok rfl ⟨rfl, timers, keypads, sources⟩

end Core

namespace Machine

variable {relation : InputRelation} {left right leftNext rightNext : Machine}
  {leftReadings rightReadings : Readings}

structure Related (relation : InputRelation) (left right : Machine) : Prop where
  core : left.core.Related relation right.core
  cycleCount : right.cycleCount = left.cycleCount

theorem outcomes_shown
    {leftSnapshot rightSnapshot : RegisterView → Snapshot RegisterView}
    (related : left.Related relation right) (next : leftNext.Related relation rightNext)
    (allows : relation.Allows leftReadings rightReadings)
    (snapshots : ∀ {leftView rightView}, leftView.Alike relation.shared rightView →
      (leftSnapshot leftView).Alike relation.shared (rightSnapshot rightView)) :
    Outcomes (Snapshot.Alike relation.shared) (Related relation)
      (match left.core.view leftReadings.snapshot with
        | .ok view => .ok (leftSnapshot view) leftNext
        | .error fault => .error fault leftNext)
      (match right.core.view rightReadings.snapshot with
        | .ok view => .ok (rightSnapshot view) rightNext
        | .error fault => .error fault rightNext) := by
  rcases Core.view_alike related.core allows with
    ⟨leftView, rightView, leftShown, rightShown, alike⟩ | ⟨fault, leftFails, rightFails⟩
  · rw [leftShown, rightShown]
    exact .ok (snapshots alike) next
  · rw [leftFails, rightFails]
    exact .error next

/-- A cycle that reads nothing but shared inputs has the same outcome for related machines. -/
theorem outcomes_step
    (related : left.Related relation right)
    (allows : relation.Allows leftReadings rightReadings)
    (reads : ∀ input, left.core.inputRead? = some input → input ∈ relation.shared) :
    Outcomes (Snapshot.Alike relation.shared) (Related relation)
      (left.step leftReadings) (right.step rightReadings) := by
  obtain ⟨inputs, same, timers, keypads, sources⟩ := related.core.exists_inputs
  have begun : left.core.begun.Related relation right.core.begun := by
    rw [same]
    exact ⟨rfl, timers, keypads, sources⟩
  have state : right.core.runState = left.core.runState := by
    rw [same]
    rfl
  have counter : right.core.memory.programCounter = left.core.memory.programCounter := by
    rw [same]
    rfl
  by_cases awaiting : left.core.runState = .awaitingKey
  · rw [step_waiting awaiting, step_waiting (state.trans awaiting)]
    refine outcomes_shown related ⟨begun, related.cycleCount⟩ allows ?_
    intro leftView rightView alike
    exact ⟨by rw [waitSnapshot, waitSnapshot, counter, related.cycleCount], alike⟩
  · have ready : right.core.runState ≠ .awaitingKey :=
      fun waits => awaiting (state.symm.trans waits)
    rw [step_ready awaiting, step_ready ready]
    have carriedOut := Core.actAlike_carryOut begun allows awaiting reads
    unfold Core.ActAlike at carriedOut
    generalize (Core.architecture leftReadings).carryOut left.core.begun = leftResult
      at carriedOut ⊢
    generalize (Core.architecture rightReadings).carryOut right.core.begun = rightResult
      at carriedOut ⊢
    cases carriedOut with
    | error next => exact .error ⟨next, related.cycleCount⟩
    | @ok operation _ leftCore rightCore sameOperation next =>
        subst sameOperation
        simp only [conclude_eq, counter, related.cycleCount]
        have redraw : rightCore.redraw = leftCore.redraw := by
          rw [next.same]
          rfl
        have described : Related relation ⟨leftCore, left.cycleCount + operation.cycles⟩
            ⟨rightCore, left.cycleCount + operation.cycles⟩ := ⟨next, rfl⟩
        refine outcomes_shown described described allows ?_
        intro leftView rightView alike
        exact ⟨by rw [redraw], alike⟩

end Machine

end Chip8
