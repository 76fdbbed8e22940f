import Chip8.Length
import Chip8.Text
/-!
The dialects of the machine.  Interpreters have read some instructions in
different ways; a dialect settles each of them and the size of the screen.
Three dialects are in common use.
-/

namespace Chip8

/-- How the instructions that interpreters disagree on are carried out. -/
structure Dialect where
  /-- A shift takes its operand from `VY` instead of `VX`. -/
  shiftsY : Bool := false
  /-- A jump with an offset adds `VX` instead of `V0`. -/
  jumpsByX : Bool := true
  /-- A glyph is chosen by the low four bits of a register; otherwise a larger number is a fault. -/
  masksGlyph : Bool := false
  /-- A sum in the index register wraps and sets the flag; otherwise it is a fault. -/
  flagsIndex : Bool := true
  /-- Storing and loading registers moves the index register on. -/
  movesIndex : Bool := false
  /-- The bitwise operations clear the flag. -/
  logicClearsFlag : Bool := false
  displayWidth : Length := .number 64
  displayHeight : Length := .number 32
  deriving DecidableEq, Repr

/-- The dialects in common use. -/
inductive Mode where
  /-- The first interpreter's reading. -/
  | classic
  /-- The reading that most later interpreters share. -/
  | modern
  /-- The modern reading on the large screen. -/
  | extended
  deriving DecidableEq, Repr

namespace Mode

/-- The name of a mode in a configuration. -/
def name : Mode → String
  | classic => "classic"
  | modern => "modern"
  | extended => "extended"

/-- All modes. -/
def all : List Mode := [classic, modern, extended]

/-- The mode of a name. -/
def ofName? (name : Text) : Option Mode :=
  all.find? fun mode => Text.ofString mode.name = name

/-- The dialect of a mode. -/
def dialect : Mode → Dialect
  | classic =>
      { shiftsY := true, jumpsByX := false, masksGlyph := true, flagsIndex := false,
        movesIndex := true, logicClearsFlag := true }
  | modern => {}
  | extended => { displayWidth := .number 128, displayHeight := .number 64 }

@[simp]
theorem ofName?_name (mode : Mode) : ofName? mode.name = some mode := by
  cases mode <;> simp [ofName?, all, name]

end Mode

end Chip8
