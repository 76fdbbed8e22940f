import Chip8.Registers
/-!
The arithmetic of the general registers.  All operands are read before any
register is written.  Sums and differences are written before the flag, so the
flag stays if both are the same register; shifts write the flag first, so the
shifted value stays.
-/

namespace Chip8.Registers

/-- Add a byte, without any carry. -/
def addByte (registers : Registers) (x : Fin 16) (byte : UInt8) : Registers :=
  registers.set x (registers.get x + byte)

/-- Combine two registers bit by bit; a dialect may clear the flag afterwards. -/
def combine (registers : Registers) (join : UInt8 → UInt8 → UInt8) (x y : Fin 16)
    (clearsFlag : Bool) : Registers :=
  let combined := registers.set x (join (registers.get x) (registers.get y))
  if clearsFlag then combined.setFlag false else combined

/-- Add two registers; the flag tells whether the sum exceeded a byte. -/
def add (registers : Registers) (x y : Fin 16) : Registers :=
  let left := registers.get x
  let right := registers.get y
  (registers.set x (left + right)).setFlag (decide (255 < left.toNat + right.toNat))

/-- Put a difference in a register; the flag tells that nothing was borrowed. -/
def subtract (registers : Registers) (x : Fin 16) (minuend subtrahend : UInt8) :
    Registers :=
  (registers.set x (minuend - subtrahend)).setFlag (decide (subtrahend ≤ minuend))

/-- Put half of a byte in a register; the flag takes the bit that is lost. -/
def shiftRight (registers : Registers) (x : Fin 16) (source : UInt8) : Registers :=
  (registers.setFlag (decide (source % 2 = 1))).set x (source / 2)

/-- Put twice a byte in a register; the flag takes the bit that is lost. -/
def shiftLeft (registers : Registers) (x : Fin 16) (source : UInt8) : Registers :=
  (registers.setFlag (decide (128 ≤ source))).set x (source + source)

end Chip8.Registers
