import Chip8.Cycle.Operation
import Chip8.Fault
import Chip8.Instruction.Opcode
/-!
Decoding of instruction words.  The first digit of a word and, for some of
them, the last one or two decide the instruction; the others are operands.
-/

namespace Chip8

/-- A decoded instruction: the word it came from, and its last three digits. -/
structure Instruction where
  word : Int
  opcode : Opcode
  x : Fin 16
  y : Fin 16
  n : Fin 16
  deriving DecidableEq, Repr

namespace Opcode

/-- The register instructions `8XYN`, by their last digit. -/
def arithmetic? (n : Fin 16) : Option Opcode :=
  match n.val with
  | 0x0 => some copy
  | 0x1 => some or
  | 0x2 => some and
  | 0x3 => some xor
  | 0x4 => some add
  | 0x5 => some subtract
  | 0x6 => some shiftRight
  | 0x7 => some subtractFrom
  | 0xE => some shiftLeft
  | _ => none

/-- The instructions `FXKK` on one register, by their last two digits. -/
def transfer? (y n : Fin 16) : Option Opcode :=
  match y.val, n.val with
  | 0x0, 0x7 => some readDelay
  | 0x0, 0xA => some awaitKey
  | 0x1, 0x5 => some setDelay
  | 0x1, 0x8 => some setSound
  | 0x1, 0xE => some addIndex
  | 0x2, 0x9 => some loadGlyph
  | 0x3, 0x3 => some storeDecimal
  | 0x5, 0x5 => some storeRegisters
  | 0x6, 0x5 => some loadRegisters
  | _, _ => none

/-- The instruction of a word with the given digits, if there is one. -/
def ofNibbles? (first x y n : Fin 16) : Option Opcode :=
  match first.val with
  | 0x0 =>
      match x.val, y.val, n.val with
      | 0x0, 0xE, 0x0 => some clear
      | 0x0, 0xE, 0xE => some ret
      | _, _, _ => none
  | 0x1 => some jump
  | 0x2 => some call
  | 0x3 => some skipEqualByte
  | 0x4 => some skipUnequalByte
  | 0x5 => if n.val = 0 then some skipEqual else none
  | 0x6 => some loadByte
  | 0x7 => some addByte
  | 0x8 => arithmetic? n
  | 0x9 => if n.val = 0 then some skipUnequal else none
  | 0xA => some loadIndex
  | 0xB => some jumpOffset
  | 0xC => some random
  | 0xD => some draw
  | 0xE =>
      match y.val, n.val with
      | 0x9, 0xE => some skipDown
      | 0xA, 0x1 => some skipUp
      | _, _ => none
  | _ => transfer? y n

/-- An instruction with any word and any operands as a host is shown it. -/
def operation (opcode : Opcode) (word : Int) (values : OperandValues) (jumpsByX : Bool) :
    Operation where
  word := Text.HexLayout.word.render word
  mnemonic := opcode.mnemonic
  operands := opcode.operandTexts values jumpsByX

end Opcode

namespace Instruction

def byte (instruction : Instruction) : UInt8 :=
  UInt8.ofNat (16 * instruction.y.val + instruction.n.val)

def address (instruction : Instruction) : Int :=
  256 * (instruction.x.val : Int) + 16 * instruction.y.val + instruction.n.val

theorem toNat_byte (instruction : Instruction) :
    instruction.byte.toNat = 16 * instruction.y.val + instruction.n.val := by
  simp only [byte, UInt8.toNat_ofNat']
  omega

/-- An address operand has twelve bits. -/
theorem address_mem_range (instruction : Instruction) :
    0 ≤ instruction.address ∧ instruction.address < 0x1000 := by
  unfold address
  omega

def operandValues (instruction : Instruction) : OperandValues where
  x := instruction.x.val
  y := instruction.y.val
  n := instruction.n.val
  kk := instruction.byte.toNat
  nnn := instruction.address

/-- The instruction of a word, of which the low sixteen bits count. -/
def decode (word : Int) : Except Fault Instruction :=
  let (first, x, y, n) := Word.nibbles word
  match Opcode.ofNibbles? first x y n with
  | some opcode => .ok ⟨word, opcode, x, y, n⟩
  | none => .error (.unsupportedWord word)

def operation (instruction : Instruction) (jumpsByX : Bool) : Operation :=
  instruction.opcode.operation instruction.word instruction.operandValues jumpsByX

end Instruction

end Chip8
