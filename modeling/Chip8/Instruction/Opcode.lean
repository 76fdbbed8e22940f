import Chip8.Text.Hex
/-!
The thirty-four instructions: the pattern of each one's word and the form of
its text.  A pattern has four characters.  Hexadecimal digits stand for
themselves, and `X`, `Y`, `N` and `K` for the digits of the operands.
-/

namespace Chip8

/-- The instructions of the machine. -/
inductive Opcode where
  | clear
  | ret
  | jump
  | call
  | skipEqualByte
  | skipUnequalByte
  | skipEqual
  | loadByte
  | addByte
  | copy
  | or
  | and
  | xor
  | add
  | subtract
  | shiftRight
  | subtractFrom
  | shiftLeft
  | skipUnequal
  | loadIndex
  | jumpOffset
  | random
  | draw
  | skipDown
  | skipUp
  | readDelay
  | awaitKey
  | setDelay
  | setSound
  | addIndex
  | loadGlyph
  | storeDecimal
  | storeRegisters
  | loadRegisters
  deriving DecidableEq, Repr

/-- The operand fields of an instruction word. -/
inductive OperandField where
  | x
  | y
  | n
  | kk
  | nnn
  deriving DecidableEq, Repr

/-- A value for every operand field. -/
structure OperandValues where
  x : Int := 0
  y : Int := 0
  n : Int := 0
  kk : Int := 0
  nnn : Int := 0
  deriving DecidableEq, Repr

def OperandValues.get (values : OperandValues) : OperandField → Int
  | .x => values.x
  | .y => values.y
  | .n => values.n
  | .kk => values.kk
  | .nnn => values.nnn

/-- The text of an operand: a field, if any, between two fixed texts. -/
structure OperandForm where
  before : String
  field : Option OperandField := none
  after : String := ""
  deriving DecidableEq, Repr

namespace OperandForm

def register (field : OperandField) : OperandForm := ⟨"V", field, ""⟩

def number (field : OperandField) : OperandForm := ⟨"0x", field, ""⟩

def fixed (text : String) : OperandForm := ⟨text, none, ""⟩

def render (form : OperandForm) (values : OperandValues) : String :=
  let middle := form.field.map fun field => Text.HexLayout.operand.render (values.get field)
  form.before ++ middle.getD "" ++ form.after

end OperandForm

namespace Opcode

def all : List Opcode :=
  [clear, ret, jump, call, skipEqualByte, skipUnequalByte, skipEqual, loadByte, addByte, copy,
   or, and, xor, add, subtract, shiftRight, subtractFrom, shiftLeft, skipUnequal, loadIndex,
   jumpOffset, random, draw, skipDown, skipUp, readDelay, awaitKey, setDelay, setSound,
   addIndex, loadGlyph, storeDecimal, storeRegisters, loadRegisters]

def pattern : Opcode → String
  | clear => "00E0"
  | ret => "00EE"
  | jump => "1NNN"
  | call => "2NNN"
  | skipEqualByte => "3XKK"
  | skipUnequalByte => "4XKK"
  | skipEqual => "5XY0"
  | loadByte => "6XKK"
  | addByte => "7XKK"
  | copy => "8XY0"
  | or => "8XY1"
  | and => "8XY2"
  | xor => "8XY3"
  | add => "8XY4"
  | subtract => "8XY5"
  | shiftRight => "8XY6"
  | subtractFrom => "8XY7"
  | shiftLeft => "8XYE"
  | skipUnequal => "9XY0"
  | loadIndex => "ANNN"
  | jumpOffset => "BNNN"
  | random => "CXKK"
  | draw => "DXYN"
  | skipDown => "EX9E"
  | skipUp => "EXA1"
  | readDelay => "FX07"
  | awaitKey => "FX0A"
  | setDelay => "FX15"
  | setSound => "FX18"
  | addIndex => "FX1E"
  | loadGlyph => "FX29"
  | storeDecimal => "FX33"
  | storeRegisters => "FX55"
  | loadRegisters => "FX65"

/-- The mnemonic, which several instructions share. -/
def mnemonic : Opcode → String
  | clear => "CLS"
  | ret => "RET"
  | jump | jumpOffset => "JP"
  | call => "CALL"
  | skipEqualByte | skipEqual => "SE"
  | skipUnequalByte | skipUnequal => "SNE"
  | addByte | add | addIndex => "ADD"
  | or => "OR"
  | and => "AND"
  | xor => "XOR"
  | subtract => "SUB"
  | shiftRight => "SHR"
  | subtractFrom => "SUBN"
  | shiftLeft => "SHL"
  | random => "RND"
  | draw => "DRW"
  | skipDown => "SKP"
  | skipUp => "SKNP"
  | loadByte | copy | loadIndex | readDelay | awaitKey | setDelay | setSound | loadGlyph
  | storeDecimal | storeRegisters | loadRegisters => "LD"

/-- The forms of the operands; a shift shows its second register in braces. -/
def operandForms : Opcode → List OperandForm
  | clear | ret => []
  | jump | call => [.number .nnn]
  | skipEqualByte | skipUnequalByte | loadByte | addByte | random =>
      [.register .x, .number .kk]
  | skipEqual | skipUnequal | copy | or | and | xor | add | subtract | subtractFrom =>
      [.register .x, .register .y]
  | shiftRight | shiftLeft => [⟨"V", some .x, " \x7b"⟩, ⟨"V", some .y, "\x7d"⟩]
  | loadIndex => [.fixed "I", .number .nnn]
  | jumpOffset => [.fixed "V0", .number .nnn]
  | draw => [.register .x, .register .y, .number .n]
  | skipDown | skipUp => [.register .x]
  | readDelay => [.register .x, .fixed "DT"]
  | awaitKey => [.register .x, .fixed "K"]
  | setDelay => [.fixed "DT", .register .x]
  | setSound => [.fixed "ST", .register .x]
  | addIndex => [.fixed "I", .register .x]
  | loadGlyph => [.fixed "F", .register .x]
  | storeDecimal => [.fixed "B", .register .x]
  | storeRegisters => [.fixed "[I]", .register .x]
  | loadRegisters => [.register .x, .fixed "[I]"]

/-- The forms of the operands when the offset of a jump is in the register `VX`. -/
def operandFormsIn (opcode : Opcode) (jumpsByX : Bool) : List OperandForm :=
  if opcode = jumpOffset ∧ jumpsByX then [.register .x, .number .nnn]
  else opcode.operandForms

def operandTexts (opcode : Opcode) (values : OperandValues) (jumpsByX : Bool) :
    List String :=
  (opcode.operandFormsIn jumpsByX).map (·.render values)

end Opcode

end Chip8
