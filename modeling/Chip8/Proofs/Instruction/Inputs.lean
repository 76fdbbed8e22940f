import Chip8.Machine.Execute
import Mathlib
/-!
Inputs of instructions.  A machine takes in three things while it runs: the
clock, random bytes and the keys.  Few instructions read one of them.  All
others do the same to two cores that differ in nothing but their inputs.
-/

namespace Chip8

open Numeric (Binary64)

/-- What a machine takes in while it runs. -/
inductive Input where
  | clock
  | random
  | keys
  deriving DecidableEq, Repr

/-- The parts of a core that inputs have made what they are. -/
structure Inputs where
  delay : DelayTimer
  keypad : Keypad
  random : Random.Source

namespace Core

def inputs (core : Core) : Inputs :=
  ⟨core.delay, core.keypad, core.random⟩

def withInputs (core : Core) (inputs : Inputs) : Core :=
  { core with delay := inputs.delay, keypad := inputs.keypad, random := inputs.random }

theorem withInputs_inputs (core : Core) : core.withInputs core.inputs = core := rfl

end Core

/-- The action does the same whatever the inputs are, and leaves them as they are. -/
def Action.Ignores {Value : Type} (action : Action Value) : Prop :=
  ∀ core inputs, action (core.withInputs inputs) =
    match action core with
    | .ok value next => .ok value (next.withInputs inputs)
    | .error fault next => .error fault (next.withInputs inputs)

namespace Action

theorem ignores_bind
    {First Second : Type} {action : Action First} {rest : First → Action Second}
    (ignores : Ignores action) (restIgnores : ∀ value, Ignores (rest value)) :
    Ignores (action >>= rest) := by
  intro core inputs
  simp only [bind, EStateM.bind, ignores core inputs]
  cases action core with
  | ok value next => exact restIgnores value next inputs
  | error fault next => rfl

theorem ignores_modify
    {change : Core → Core}
    (same : ∀ core inputs, change (core.withInputs inputs) = (change core).withInputs inputs) :
    Ignores (modify change) := by
  intro core inputs
  exact congrArg (EStateM.Result.ok ()) (same core inputs)

theorem ignores_attempt
    {change : Core → Except Fault Core}
    (same : ∀ core inputs,
      change (core.withInputs inputs) = (change core).map (·.withInputs inputs)) :
    Ignores (attempt change) := by
  intro core inputs
  simp only [attempt, same core inputs]
  cases change core <;> rfl

theorem ignores_tryMemory (change : Core → Memory → Except Fault Memory)
    (same : ∀ core inputs, change (core.withInputs inputs) = change core) :
    Ignores (attempt fun core => core.tryMemory (change core)) := by
  refine ignores_attempt ?_
  intro core inputs
  have memory : (core.withInputs inputs).memory = core.memory := rfl
  simp only [Core.tryMemory, same, memory]
  cases change core core.memory <;> rfl

theorem ignores_skipWhen (condition : Core → Bool)
    (same : ∀ core inputs, condition (core.withInputs inputs) = condition core) :
    Ignores (modify fun core => core.skipWhen (condition core)) := by
  refine ignores_modify ?_
  intro core inputs
  simp only [Core.skipWhen, same]
  cases condition core <;> rfl

theorem ignores_popReturn : Ignores Core.popReturn := by
  intro core inputs
  have stack : (core.withInputs inputs).stack = core.stack := rfl
  simp only [Core.popReturn, stack]
  cases core.stack.pop <;> rfl

theorem ignores_pushReturn : Ignores (attempt (·.pushReturn)) := by
  refine ignores_attempt ?_
  intro core inputs
  have stack : (core.withInputs inputs).stack = core.stack := rfl
  have memory : (core.withInputs inputs).memory = core.memory := rfl
  simp only [Core.pushReturn, stack, memory]
  cases core.stack.push core.memory.programCounter <;> rfl

theorem ignores_drawSprite (x y rows : Fin 16) : Ignores (attempt (·.drawSprite x y rows)) := by
  refine ignores_attempt ?_
  intro core inputs
  have memory : (core.withInputs inputs).memory = core.memory := rfl
  simp only [Core.drawSprite, memory]
  cases core.memory.readWindow rows.val <;> rfl

theorem ignores_setSound (x : Fin 16) : Ignores (attempt (·.setSound x)) := by
  refine ignores_attempt ?_
  intro core inputs
  have register : (core.withInputs inputs).register x = core.register x := rfl
  simp only [Core.setSound, register]
  cases SoundTimer.store (core.register x).toNat <;> rfl

theorem ignores_addIndex (x : Fin 16) : Ignores (attempt (·.addIndex x)) := by
  refine ignores_attempt ?_
  intro core inputs
  have register : (core.withInputs inputs).register x = core.register x := rfl
  have memory : (core.withInputs inputs).memory = core.memory := rfl
  have dialect : (core.withInputs inputs).dialect = core.dialect := rfl
  simp only [Core.addIndex, register, memory, dialect]
  cases core.memory.addIndex (core.register x).toNat core.dialect.flagsIndex <;> rfl

theorem finishTransfer_withInputs (core : Core) (inputs : Inputs) (x : Fin 16) :
    (core.withInputs inputs).finishTransfer x = (core.finishTransfer x).withInputs inputs := by
  have dialect : (core.withInputs inputs).dialect = core.dialect := rfl
  simp only [Core.finishTransfer, dialect]
  split <;> rfl

theorem ignores_storeRegisters (x : Fin 16) : Ignores (attempt (·.storeRegisters x)) := by
  refine ignores_attempt ?_
  intro core inputs
  have memory : (core.withInputs inputs).memory = core.memory := rfl
  have registers : (core.withInputs inputs).registers = core.registers := rfl
  simp only [Core.storeRegisters, Core.tryMemory, memory, registers]
  cases core.memory.writeWindow (core.registers.dump x.val) with
  | ok stored =>
      exact congrArg Except.ok
        (finishTransfer_withInputs { core with memory := stored } inputs x)
  | error fault => rfl

theorem ignores_loadRegisters (x : Fin 16) : Ignores (attempt (·.loadRegisters x)) := by
  refine ignores_attempt ?_
  intro core inputs
  have memory : (core.withInputs inputs).memory = core.memory := rfl
  simp only [Core.loadRegisters, memory]
  cases core.memory.readWindow (x.val + 1) with
  | ok bytes =>
      exact congrArg Except.ok
        (finishTransfer_withInputs (core.mapRegisters (·.loadBytes bytes)) inputs x)
  | error fault => rfl

end Action

namespace Instruction

/-- The input that an instruction reads, if any; a number that names no key is refused unread. -/
def input? (instruction : Instruction) (core : Core) : Option Input :=
  match instruction.opcode with
  | .readDelay => some .clock
  | .random => some .random
  | .awaitKey => some .keys
  | .skipDown | .skipUp => if (core.register instruction.x).toNat < 16 then some .keys else none
  | _ => none

theorem ignores_execute
    (instruction : Instruction) (now : Binary64)
    (other : instruction.opcode ∉
      [Opcode.readDelay, .setDelay, .random, .awaitKey, .skipDown, .skipUp]) :
    Action.Ignores (instruction.execute now) := by
  unfold execute
  cases opcode : instruction.opcode <;> rw [opcode] at other
  case readDelay | setDelay | random | awaitKey | skipDown | skipUp =>
    exact absurd (by decide) other
  case ret =>
    refine Action.ignores_bind Action.ignores_popReturn ?_
    intro target
    exact Action.ignores_tryMemory (fun _ memory => memory.jump target) fun _ _ => rfl
  case call =>
    refine Action.ignores_bind Action.ignores_pushReturn ?_
    intro _
    exact Action.ignores_tryMemory (fun _ memory => memory.jump instruction.address)
      fun _ _ => rfl
  case jump =>
    exact Action.ignores_tryMemory (fun _ memory => memory.jump instruction.address)
      fun _ _ => rfl
  case jumpOffset =>
    exact Action.ignores_tryMemory
      (fun core memory => memory.jump (core.offsetTarget instruction.address instruction.x))
      fun _ _ => rfl
  case loadIndex =>
    exact Action.ignores_tryMemory (fun _ memory => memory.setIndex instruction.address)
      fun _ _ => rfl
  case loadGlyph =>
    exact Action.ignores_tryMemory
      (fun core memory =>
        memory.pointAtGlyph (core.register instruction.x).toNat core.dialect.masksGlyph)
      fun _ _ => rfl
  case storeDecimal =>
    exact Action.ignores_tryMemory
      (fun core memory => memory.writeDecimal (core.register instruction.x).toNat)
      fun _ _ => rfl
  case skipEqualByte | skipUnequalByte | skipEqual | skipUnequal =>
    exact Action.ignores_skipWhen _ fun _ _ => rfl
  case draw => exact Action.ignores_drawSprite instruction.x instruction.y instruction.n
  case setSound => exact Action.ignores_setSound instruction.x
  case addIndex => exact Action.ignores_addIndex instruction.x
  case storeRegisters => exact Action.ignores_storeRegisters instruction.x
  case loadRegisters => exact Action.ignores_loadRegisters instruction.x
  all_goals exact Action.ignores_modify fun _ _ => rfl

end Instruction

end Chip8
