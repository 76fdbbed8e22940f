import Chip8.Proofs.Instruction.Effect
import Mathlib
/-!
Instructions under other equipment.  A machine is made with a dialect, a screen
and a source of random bytes.  Each choice that a dialect makes governs a few
instructions; all others do the same in every dialect, and the instructions
that draw or take a random byte are the only ones that meet the screen and the
source.
-/

namespace Chip8

open Numeric (Binary64)

namespace Dialect

/-- The choices that a dialect makes. -/
inductive Choice where
  | shiftSource
  | jumpOffset
  | glyphMask
  | indexFlag
  | indexMove
  | logicFlag
  | screenWidth
  | screenHeight
  deriving DecidableEq, Repr

namespace Choice

def all : List Choice :=
  [shiftSource, jumpOffset, glyphMask, indexFlag, indexMove, logicFlag, screenWidth, screenHeight]

/-- The instructions that a choice is about. -/
def governed : Choice → List Opcode
  | shiftSource => [.shiftRight, .shiftLeft]
  | jumpOffset => [.jumpOffset]
  | glyphMask => [.loadGlyph]
  | indexFlag => [.addIndex]
  | indexMove => [.storeRegisters, .loadRegisters]
  | logicFlag => [.or, .and, .xor]
  | screenWidth | screenHeight => [.draw]

/-- Two dialects make the same choice; a truth value is as good as the number it counts for. -/
def Agrees (left right : Dialect) : Choice → Prop
  | shiftSource => left.shiftsY = right.shiftsY
  | jumpOffset => left.jumpsByX = right.jumpsByX
  | glyphMask => left.masksGlyph = right.masksGlyph
  | indexFlag => left.flagsIndex = right.flagsIndex
  | indexMove => left.movesIndex = right.movesIndex
  | logicFlag => left.logicClearsFlag = right.logicClearsFlag
  | screenWidth => left.displayWidth.value = right.displayWidth.value
  | screenHeight => left.displayHeight.value = right.displayHeight.value

instance decidableAgrees (left right : Dialect) (choice : Choice) :
    Decidable (choice.Agrees left right) :=
  match choice with
  | shiftSource | jumpOffset | glyphMask | indexFlag | indexMove | logicFlag =>
      inferInstanceAs (Decidable ((_ : Bool) = _))
  | screenWidth | screenHeight => inferInstanceAs (Decidable ((_ : Int) = _))

theorem mem_all (choice : Choice) : choice ∈ all := by
  cases choice <;> decide

end Choice

/-- An instruction is governed by a choice that two dialects make in different ways. -/
def Disputes (left right : Dialect) (opcode : Opcode) : Prop :=
  ∃ choice : Choice, ¬ choice.Agrees left right ∧ opcode ∈ choice.governed

instance decidableDisputes (left right : Dialect) (opcode : Opcode) :
    Decidable (left.Disputes right opcode) :=
  decidable_of_iff (∃ choice ∈ Choice.all, ¬ choice.Agrees left right ∧ opcode ∈ choice.governed)
    ⟨fun ⟨choice, _, disputed⟩ => ⟨choice, disputed⟩,
      fun ⟨choice, disputed⟩ => ⟨choice, choice.mem_all, disputed⟩⟩

variable {left right : Dialect} {opcode : Opcode}

/-- Dialects that do not dispute an instruction agree on all that governs it. -/
theorem agrees_of_not_disputes
    (undisputed : ¬ left.Disputes right opcode) (choice : Choice)
    (governs : opcode ∈ choice.governed) : choice.Agrees left right := by
  by_contra differs
  exact undisputed ⟨choice, differs, governs⟩

theorem not_disputes_self (dialect : Dialect) (opcode : Opcode) :
    ¬ dialect.Disputes dialect opcode := by
  rintro ⟨choice, differs, -⟩
  refine differs ?_
  cases choice <;> rfl

end Dialect

namespace Display

/-- Two screens show the same, if they are of one size. -/
def Alike (left right : Display) : Prop :=
  right.width = left.width → right.height = left.height → right.cells = left.cells

variable {left right : Display}

theorem alike_clear (left right : Display) : left.clear.Alike right.clear := by
  intro width height
  have widths : right.width = left.width := width
  have heights : right.height = left.height := height
  simp only [clear, widths, heights]

theorem spritePlaces_congr
    (width : right.width = left.width) (height : right.height = left.height)
    (x y : Int) (rows : List Int) : right.spritePlaces x y rows = left.spritePlaces x y rows := by
  simp only [spritePlaces, rowPlaces, width, height]

/-- A sprite looks the same on two screens of one size that show the same. -/
theorem draw_congr
    (alike : left.Alike right) (width : right.width = left.width)
    (height : right.height = left.height) (x y : Int) (rows : List Int) :
    (left.draw x y rows).1.Alike (right.draw x y rows).1 ∧
      (right.draw x y rows).2 = (left.draw x y rows).2 := by
  have cells : right.cells = left.cells := alike width height
  have lit : right.isLit = left.isLit := by
    funext place
    rw [isLit, isLit, cells]
  have places := spritePlaces_congr width height x y rows
  simp only [draw, places, cells, lit, and_true]
  exact fun _ _ => rfl

end Display

/-- What a machine is made with. -/
structure Equipment where
  dialect : Dialect
  display : Display
  random : Random.Source

namespace Core

def equipment (core : Core) : Equipment :=
  ⟨core.dialect, core.display, core.random⟩

def withEquipment (core : Core) (equipment : Equipment) : Core :=
  { core with
    dialect := equipment.dialect, display := equipment.display, random := equipment.random }

end Core

namespace Instruction

variable {instruction : Instruction} {core : Core} {equipment : Equipment}

/-- The choices that govern an instruction are made alike, and so are the random bytes. -/
structure Suits (instruction : Instruction) (core : Core) (equipment : Equipment) : Prop where
  undisputed : ¬ core.dialect.Disputes equipment.dialect instruction.opcode
  screens : core.display.Alike equipment.display
  sizes : instruction.opcode = .draw →
    equipment.display.width = core.display.width ∧ equipment.display.height = core.display.height
  bytes : equipment.random.next.1 = core.random.next.1

theorem Suits.agrees
    (suits : instruction.Suits core equipment) (choice : Dialect.Choice)
    (governs : instruction.opcode ∈ choice.governed) :
    choice.Agrees core.dialect equipment.dialect :=
  Dialect.agrees_of_not_disputes suits.undisputed choice governs

theorem Suits.jumpsByX
    (suits : instruction.Suits core equipment) (opcode : instruction.opcode = .jumpOffset) :
    core.dialect.jumpsByX = equipment.dialect.jumpsByX :=
  suits.agrees .jumpOffset (by simp [opcode, Dialect.Choice.governed])

theorem Suits.masksGlyph
    (suits : instruction.Suits core equipment) (opcode : instruction.opcode = .loadGlyph) :
    core.dialect.masksGlyph = equipment.dialect.masksGlyph :=
  suits.agrees .glyphMask (by simp [opcode, Dialect.Choice.governed])

theorem Suits.flagsIndex
    (suits : instruction.Suits core equipment) (opcode : instruction.opcode = .addIndex) :
    core.dialect.flagsIndex = equipment.dialect.flagsIndex :=
  suits.agrees .indexFlag (by simp [opcode, Dialect.Choice.governed])

theorem drawn_withEquipment
    (suits : instruction.Suits core equipment) (draws : instruction.opcode = .draw) :
    (instruction.drawn core).1.Alike (instruction.drawn (core.withEquipment equipment)).1 ∧
      (instruction.drawn (core.withEquipment equipment)).2 = (instruction.drawn core).2 :=
  Display.draw_congr suits.screens (suits.sizes draws).1 (suits.sizes draws).2 _ _ _

theorem nextCounter_withEquipment (suits : instruction.Suits core equipment) :
    instruction.nextCounter (core.withEquipment equipment) = instruction.nextCounter core := by
  unfold nextCounter
  cases opcode : instruction.opcode
  case jumpOffset =>
    simp only [Core.offsetTarget, suits.jumpsByX opcode]
    rfl
  all_goals rfl

theorem nextIndex_withEquipment (suits : instruction.Suits core equipment) :
    instruction.nextIndex (core.withEquipment equipment) = instruction.nextIndex core := by
  unfold nextIndex
  cases opcode : instruction.opcode
  case addIndex =>
    simp only [suits.flagsIndex opcode]
    rfl
  case loadGlyph =>
    simp only [suits.masksGlyph opcode]
    rfl
  case storeRegisters | loadRegisters =>
    have same : core.dialect.movesIndex = equipment.dialect.movesIndex :=
      suits.agrees .indexMove (by simp [opcode, Dialect.Choice.governed])
    simp only [same]
    rfl
  all_goals rfl

theorem nextRegisters_withEquipment (suits : instruction.Suits core equipment) (now : Binary64) :
    instruction.nextRegisters now (core.withEquipment equipment) =
      instruction.nextRegisters now core := by
  -- a case for each instruction whose registers come from a choice, a random byte or the screen
  unfold nextRegisters
  cases opcode : instruction.opcode
  case or | and | xor =>
    have same : core.dialect.logicClearsFlag = equipment.dialect.logicClearsFlag :=
      suits.agrees .logicFlag (by simp [opcode, Dialect.Choice.governed])
    simp only [same]
    rfl
  case shiftRight | shiftLeft =>
    have same : core.dialect.shiftsY = equipment.dialect.shiftsY :=
      suits.agrees .shiftSource (by simp [opcode, Dialect.Choice.governed])
    simp only [Core.shiftSource, same]
    rfl
  case addIndex =>
    simp only [suits.flagsIndex opcode]
    rfl
  case random =>
    have same : (core.withEquipment equipment).random.next.1 = core.random.next.1 := suits.bytes
    simp only [same]
    rfl
  case draw =>
    simp only [(drawn_withEquipment suits opcode).2]
    rfl
  all_goals rfl

theorem fault?_withEquipment (suits : instruction.Suits core equipment) (now : Binary64) :
    instruction.fault? now (core.withEquipment equipment) = instruction.fault? now core := by
  unfold fault?
  cases opcode : instruction.opcode
  case jumpOffset =>
    simp only [Core.offsetTarget, suits.jumpsByX opcode]
    rfl
  case addIndex =>
    simp only [suits.flagsIndex opcode]
    rfl
  case loadGlyph =>
    simp only [suits.masksGlyph opcode]
    rfl
  all_goals rfl

theorem nextDisplay_withEquipment (suits : instruction.Suits core equipment) :
    (instruction.nextDisplay core).Alike
      (instruction.nextDisplay (core.withEquipment equipment)) := by
  unfold nextDisplay
  cases opcode : instruction.opcode
  case clear => exact Display.alike_clear core.display equipment.display
  case draw => exact (drawn_withEquipment suits opcode).1
  all_goals exact suits.screens

/-- The text of a jump with an offset depends on the dialect, and no other text does. -/
theorem operation_withEquipment (suits : instruction.Suits core equipment) :
    instruction.operation equipment.dialect.jumpsByX =
      instruction.operation core.dialect.jumpsByX := by
  unfold operation Opcode.operation Opcode.operandTexts Opcode.operandFormsIn
  by_cases jumps : instruction.opcode = .jumpOffset
  · rw [suits.jumpsByX jumps]
  · simp only [jumps, false_and, if_false]

/-- An instruction has the same effect under equipment that suits it, but for the equipment. -/
theorem effect_withEquipment (suits : instruction.Suits core equipment) (now : Binary64) :
    instruction.effect now (core.withEquipment equipment) =
      (instruction.effect now core).withEquipment
        (instruction.effect now (core.withEquipment equipment)).equipment := by
  simp only [effect, nextCounter_withEquipment suits, nextIndex_withEquipment suits,
    nextRegisters_withEquipment suits]
  rfl

/-- A fault leaves the same behind under any equipment. -/
theorem residue_withEquipment (instruction : Instruction) (core : Core) (equipment : Equipment) :
    instruction.residue (core.withEquipment equipment) =
      (instruction.residue core).withEquipment equipment := by
  have stack : (core.withEquipment equipment).stack = core.stack := rfl
  unfold residue
  cases instruction.opcode
  case call =>
    simp only [stack]
    split <;> rfl
  all_goals rfl

end Instruction

end Chip8
