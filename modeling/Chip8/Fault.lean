import Chip8.Fault.Kind
import Chip8.Length
import Chip8.Text
import Chip8.Text.Hex
import Chip8.Text.Integer
import Chip8.Word
/-!
The faults of the machine and its parts, by cause.  Each cause has a kind and,
unless it is a plain misuse, a message for the host.
-/

namespace Chip8

open Text (HexLayout)

/-- Why an operation of the machine or one of its parts failed. -/
inductive Fault where
  | programTooLarge (size available : Nat)
  | stackOverflow (address : Int)
  | stackUnderflow
  | unsupportedWord (word : Int)
  | jumpOutside (address : Int)
  | fetchOutside (address : Int)
  | indexOutside (address : Int)
  | noGlyph (digit : Int)
  | windowOutside (count index : Int)
  | tooManyCells
  | memoryExhausted
  | ramSize
  | ramAddress (address : Int) (size : Length)
  | ramData (data : Int)
  | blockData
  | registerValue (value : Int)
  | registerNumber
  | registerCount (last : Int) (count : Nat)
  | keyOutside (key : Int)
  | displaySize (width height : Length)
  | pixelOutside (x y : Int) (width height : Length)
  | soundTooShort (value : Int)
  | readingTooLarge
  | ticksUndefined
  | ticksInfinite
  | unknownRunState
  | argumentType
  deriving DecidableEq, Repr

namespace Fault

def noSuchInstruction : String := "no such instruction"

/-- The reason given for a word that calls the host system's own code. -/
def systemCall : String := "0NNN - `SYS addr` deprecated"

def unsupportedText (reason : Text) (word : Int) : Text :=
  reason ++ ": " ++ HexLayout.word.render word

/-- The message for a program that does not fit. -/
def programTooLargeText (size available : Text) : Text :=
  "loaded rom is too big: " ++ size ++ " >= " ++ available

/--
The message for a host.  Misuses that the parts do not name have none, and
neither has a wrong number of register bytes if the number that was expected has
too many digits to be shown.  In all other messages the limit on digits is left
aside, so that an address, a key or a pixel of any size can be shown there.
-/
def message : Fault → Option Text
  | programTooLarge size available =>
      some (programTooLargeText (toString size) (toString available))
  | stackOverflow address =>
      some ("stack overflow: cannot push " ++ HexLayout.address.render address ++
        ", depth is 16")
  | stackUnderflow => some "stack is empty: cannot pop from stack"
  | unsupportedWord word =>
      some (unsupportedText
        (if Word.nibble word 3 = 0 then systemCall else noSuchInstruction) word)
  | jumpOutside address =>
      some ("Program counter " ++ HexLayout.address.render address ++
        " outside 0x200-0xea0.")
  | fetchOutside address =>
      some ("Cannot fetch at " ++ HexLayout.address.render address ++
        ": outside program area below 0xea0.")
  | indexOutside address =>
      some ("Index register " ++ HexLayout.address.render address ++
        " outside addressable space.")
  | noGlyph digit =>
      some ("No built-in font glyph for " ++ HexLayout.glyph.render digit ++ ".")
  | windowOutside count index =>
      some (s!"Access of {count} bytes at I=" ++ HexLayout.address.render index ++
        " runs past the end of memory.")
  | ramSize => some "RAM size must be a positive integer."
  | ramAddress address size =>
      some (s!"Address {address} out of bounds for RAM of size " ++ size.text ++ ".")
  | ramData data => some s!"Data {data} is not an 8-bit value."
  | registerValue value => some s!"Register value {value} is not an 8-bit value."
  | registerCount last count =>
      if Text.canShow (last + 1) then
        some (s!"Expected {last + 1} bytes for V0..V" ++ HexLayout.operand.render last ++
          s!", got {count}.")
      else none
  | keyOutside key => some s!"Key {key} out of range 0x0-0xF."
  | displaySize width height =>
      some ("Invalid display size " ++ width.text ++ "x" ++ height.text ++ ".")
  | pixelOutside x y width height =>
      some (s!"Pixel ({x}, {y}) out of bounds for " ++ width.text ++ "x" ++ height.text ++
        " display.")
  | soundTooShort value =>
      some s!"Sound timer value {value} is below the minimum duration 2."
  | tooManyCells | memoryExhausted | blockData | registerNumber | readingTooLarge
  | ticksUndefined | ticksInfinite | unknownRunState | argumentType => none

def kind : Fault → FaultKind
  | programTooLarge .. => .programTooLarge
  | stackOverflow _ => .stackOverflow
  | stackUnderflow => .stackUnderflow
  | unsupportedWord _ => .unsupportedWord
  | jumpOutside _ | fetchOutside _ | indexOutside _ | noGlyph _ | windowOutside .. =>
      .addressRange
  | ramAddress .. | registerNumber | keyOutside _ | pixelOutside .. => .index
  | memoryExhausted => .memory
  | tooManyCells | readingTooLarge | ticksInfinite => .overflow
  | ramSize | ramData _ | blockData | registerValue _ | registerCount .. | displaySize ..
  | soundTooShort _ | ticksUndefined | unknownRunState => .value
  | argumentType => .type

end Fault

/-- A device can be asked for a number of cells, and a host is assumed to have memory for them. -/
def checkCells (count : Int) : Except Fault Unit :=
  if Length.greatest < count then .error .tooManyCells
  else if Length.assumedMemory < count then .error .memoryExhausted
  else .ok ()

/--
A byte can be asked for a number of times, under the same assumption.  A number
below zero stands for none.
-/
def checkRepeats (count : Int) : Except Fault Unit :=
  if count < Length.least then .error .tooManyCells else checkCells count

end Chip8
