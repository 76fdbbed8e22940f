import Chip8.Cycle
import Chip8.Ram
/-!
A processor whose instructions are the rows of a table.  It reads one byte per
cycle and looks its text and cost up; nothing is executed.  It is the smallest
architecture that runs on the common cycle.
-/

namespace Chip8

/-- A processor that walks over a memory of bytes and names what it finds. -/
structure TableProcessor (size : Length) where
  ram : Ram size
  programCounter : Int
  halted : Bool

/-- The registers that a table processor shows. -/
structure CounterView where
  programCounter : Int
  stackDepth : Int
  deriving DecidableEq, Repr

namespace TableProcessor

variable {size : Length}

/-- A row of the table: the byte in hexadecimal, and what it stands for. -/
structure Row where
  word : String
  mnemonic : String
  operands : List String
  cycles : Int

/-- The operation that a byte stands for; a byte outside the table is unknown. -/
def lookUp (table : List Row) (byte : Int) : Operation :=
  let word := Text.HexLayout.byte.render byte
  match table.find? (·.word = word) with
  | some row => ⟨word, row.mnemonic, row.operands, row.cycles, 2⟩
  | none => ⟨word, "UNKNOWN", ["?"], 1, 2⟩

/-- What is shown instead of an instruction while the processor is halted. -/
def haltOperation : Operation := ⟨"--", "HALT", [], 0, 2⟩

def view (processor : TableProcessor size) : CounterView :=
  ⟨processor.programCounter, 0⟩

/-- Read the next byte and move on; a failed read does not move. -/
def fetch : EStateM Fault (TableProcessor size) Int := fun processor =>
  match processor.ram.read processor.programCounter with
  | .ok byte =>
      .ok byte.toNat { processor with programCounter := processor.programCounter + 1 }
  | .error fault => .error fault processor

def architecture (table : List Row) :
    Architecture Fault (TableProcessor size) Int CounterView where
  address := return (← get).programCounter
  halted? cycleCount _ := do
    let processor ← get
    return if processor.halted then
      some ⟨processor.view, haltOperation, cycleCount, none, false⟩
    else
      none
  fetch := fetch
  decode := pure
  execute _ := pure ()
  describe byte := pure (lookUp table byte)
  view := return (← get).view

end TableProcessor

end Chip8
