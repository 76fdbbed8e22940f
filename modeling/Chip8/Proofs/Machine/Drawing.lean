import Chip8.Proofs.Display.Sprite
import Chip8.Proofs.Machine.ClockedRun
import Mathlib
/-!
Drawing by a program.  The instruction takes the place of the sprite from two
registers as they are before it, and its rows from memory; the flag register
then tells about the collision, even if the place was in it.
-/

namespace Chip8

open Registers (flagNumber)

namespace Core

/-- The next word draws a sprite, and the rows of the sprite lie in memory. -/
structure AtSprite (core : Core) : Prop where
  ready : core.runState ≠ .awaitingKey
  inside : core.memory.programCounter ≤ 0xE9E
  matched : Opcode.draw.Matches core.nextWord
  fits : core.memory.index + (Word.nibble core.nextWord 0).val ≤ 0x1000

/-- The rows of the sprite that the next word names, which stand at the index register. -/
def spriteRows (core : Core) : List Int :=
  (core.memory.window (Word.nibble core.nextWord 0).val).map fun byte => (byte.toNat : Int)

/-- The columns to the left of the sprite that the next word names. -/
def spriteX (core : Core) : Int :=
  (core.register (Word.nibble core.nextWord 2)).toNat

/-- The rows above the sprite that the next word names. -/
def spriteY (core : Core) : Int :=
  (core.register (Word.nibble core.nextWord 1)).toNat

end Core

namespace Machine

variable {machine : Machine} {readings : Readings}

/-- A cycle draws the sprite that the next word names. -/
structure DrawsSprite (machine : Machine) (readings : Readings) : Prop where
  drawn : ∃ collided,
    machine.core.display.Drawn machine.core.spriteX machine.core.spriteY machine.core.spriteRows
      (machine.after (.step readings)).core.display collided ∧
    (machine.after (.step readings)).core.register flagNumber = if collided then 1 else 0
  succeeds : machine.core.ClockDefined readings →
    ∃ snapshot, machine.step readings = .ok snapshot (machine.after (.step readings))

theorem drawsSprite_of_wellFormed
    (wellFormed : machine.core.WellFormed) (atSprite : machine.core.AtSprite)
    (readings : Readings) : machine.DrawsSprite readings := by
  have reaches := Core.reaches_of_matches atSprite.ready atSprite.inside atSprite.matched
  have accepted : (machine.core.nextInstruction .draw).fault? readings.execution
      machine.core.fetched = none := Memory.windowFault?_eq_none_iff.mpr atSprite.fits
  have left := after_step_of_accepted wellFormed reaches accepted
  refine ⟨⟨(machine.core.display.draw machine.core.spriteX machine.core.spriteY
    machine.core.spriteRows).2, ?_, ?_⟩, ?_⟩
  · rw [left]
    exact Display.drawn_draw machine.core.display machine.core.spriteX machine.core.spriteY
      machine.core.spriteRows
  · rw [left]
    exact Registers.flag_setFlag machine.core.registers _
  · intro clock
    rw [left]
    exact step_of_accepted wellFormed clock reaches accepted

/--
Drawing flips exactly the pixels at which the sprite has a set bit, and tells
whether one of them was lit.  An instruction draws what lies in memory, at the
place that its registers name, and the flag register tells about the collision.
-/
theorem sprite_drawing :
    (∀ (display : Display) (x y : Int) (rows : List Int),
      display.Drawn x y rows (display.draw x y rows).1 (display.draw x y rows).2) ∧
    ∀ machine : Machine, machine.Reachable → machine.core.AtSprite →
      ∀ readings, machine.DrawsSprite readings :=
  ⟨Display.drawn_draw, fun _ reachable atSprite readings =>
    drawsSprite_of_wellFormed (wellFormed_of_reachable reachable) atSprite readings⟩

/-- A glyph that hangs over a corner is drawn over itself, at a place from the flag register. -/
theorem sprite_drawing_corner :
    let machine := unloaded.run
      [.load [0x6F, 0x3E, 0xDF, 0xF5, 0x6F, 0x3E, 0xDF, 0xF5], .step (.still .zero),
        .step (.still .zero), .step (.still .zero)]
    machine.core.AtSprite ∧ machine.core.ClockDefined (.still .zero) ∧
      machine.DrawsSprite (.still .zero) ∧
      (machine.after (.step (.still .zero))).core.register flagNumber = 1 := by
  intro machine
  obtain ⟨ready, inside, found, fits, stands, flag⟩ :
      machine.core.runState ≠ .awaitingKey ∧ machine.core.memory.programCounter ≤ 0xE9E ∧
        Instruction.decode machine.core.nextWord = .ok (machine.core.nextInstruction .draw) ∧
        machine.core.memory.index + (Word.nibble machine.core.nextWord 0).val ≤ 0x1000 ∧
        machine.core.delay.reference = .finite false 0 Numeric.Binary64.leastExponent ∧
        (machine.after (.step (.still .zero))).core.register flagNumber = 1 := by
    decide +kernel
  have reachable : machine.Reachable := reachable_run_unloaded _
  have atSprite : machine.core.AtSprite :=
    ⟨ready, inside, (Instruction.decode_eq_ok_iff.mp found).1, fits⟩
  exact ⟨atSprite, Core.clockDefined_still stands,
    sprite_drawing.2 machine reachable atSprite (.still .zero), flag⟩

end Machine

end Chip8
