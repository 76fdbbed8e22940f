import Chip8.Memory.Layout
import Chip8.Ram
/-!
The memory of the machine: the cells with the glyphs in them, the program
counter and the index register.  Fetching moves the program counter; a window
is a row of cells from the index register on, and may not run past the end.
-/

namespace Chip8

/-- The cells of the machine with its two address registers. -/
structure Memory where
  ram : Ram (.number Memory.cellCount)
  programCounter : Int
  index : Int
  deriving DecidableEq

namespace Memory

def initialRam : Ram (.number cellCount) :=
  ⟨overwrite Ram.blank.cells glyphStart glyphs⟩

/-- The memory before any program is loaded. -/
def initial : Memory := ⟨initialRam, programStart, glyphStart⟩

/-- Put a program at its start.  One that is too large is refused as a whole. -/
def load (memory : Memory) (program : List Int) : Except Fault Memory :=
  if programCapacity ≤ program.length then
    .error (.programTooLarge program.length programCapacity)
  else do
    let ram ← memory.ram.writeBlock programStart program
    return { memory with ram }

/--
Put a program that is one byte over and over at its start.  The byte is checked
before the number of bytes, and a program that is too large is refused before
it is made; a negative number of bytes is none.
-/
def loadFill (memory : Memory) (byte count : Int) : Except Fault Memory := do
  let _ ← bytesOfBlock? [byte]
  checkRepeats count
  if (programCapacity : Int) ≤ count then
    .error (.programTooLarge count.toNat programCapacity)
  else
    memory.load (List.replicate count.toNat byte)

/-- Continue at an address, which must lie in the program area or just after it. -/
def jump (memory : Memory) (address : Int) : Except Fault Memory :=
  if programStart ≤ address ∧ address ≤ reservedStart then
    .ok { memory with programCounter := address }
  else
    .error (.jumpOutside address)

def advance (memory : Memory) : Memory :=
  { memory with programCounter := memory.programCounter + instructionSize }

def rewind (memory : Memory) : Memory :=
  { memory with programCounter := memory.programCounter - instructionSize }

/--
The word at the program counter, which then points behind it.  The whole word
must lie below the reserved part; otherwise nothing moves.
-/
def fetch : EStateM Fault Memory Int := fun memory =>
  if reservedStart < memory.programCounter + instructionSize then
    .error (.fetchOutside memory.programCounter) memory
  else
    match memory.ram.readPair memory.programCounter with
    | .ok (high, low) => .ok (Word.ofBytes high low) memory.advance
    | .error fault => .error fault memory.advance

def setIndex (memory : Memory) (address : Int) : Except Fault Memory :=
  if 0 ≤ address ∧ address < cellCount then .ok { memory with index := address }
  else .error (.indexOutside address)

/--
Point the index register at the glyph of a digit.  Either only the low four
bits of the number count, or the number must be a digit.
-/
def pointAtGlyph (memory : Memory) (digit : Int) (lowBitsOnly : Bool) :
    Except Fault Memory :=
  if lowBitsOnly then
    .ok { memory with index := glyphStart + glyphSize * (digit % 16) }
  else if 0 ≤ digit ∧ digit < glyphCount then
    .ok { memory with index := glyphStart + glyphSize * digit }
  else
    .error (.noGlyph digit)

/--
Add to the index register; tells whether the sum passed the end of memory.
Either such a sum wraps around, or it is refused.
-/
def addIndex (memory : Memory) (value : Int) (wraps : Bool) :
    Except Fault (Bool × Memory) :=
  let total := memory.index + value
  if wraps then
    .ok (decide (cellCount ≤ total), { memory with index := total % cellCount })
  else if cellCount ≤ total then
    .error (.indexOutside total)
  else
    .ok (false, { memory with index := total })

/-- Move the index register on, around the end of memory. -/
def moveIndex (memory : Memory) (count : Int) : Memory :=
  { memory with index := (memory.index + count) % cellCount }

/-- Whether a window of `count` cells stays below the end of memory. -/
def checkWindow (memory : Memory) (count : Int) : Except Fault Unit :=
  if cellCount < memory.index + count then .error (.windowOutside count memory.index)
  else .ok ()

def readWindow (memory : Memory) (count : Int) : Except Fault (List UInt8) := do
  memory.checkWindow count
  memory.ram.readBlock memory.index count

/-- Put bytes in a window; all of them or none. -/
def writeWindow (memory : Memory) (bytes : List UInt8) : Except Fault Memory := do
  memory.checkWindow bytes.length
  let ram ← memory.ram.writeBytes memory.index bytes
  return { memory with ram }

/-- Put numbers in a window; the numbers are checked before the window. -/
def writeNumbers (memory : Memory) (block : List Int) : Except Fault Memory := do
  let bytes ← bytesOfBlock? block
  memory.writeWindow bytes

def writeDecimal (memory : Memory) (value : Int) : Except Fault Memory :=
  let (hundreds, tens, ones) := Word.decimalDigits value
  memory.writeNumbers [hundreds, tens, ones]

end Memory

end Chip8
