/-!
Hexadecimal text in the layouts of the machine's messages and listings.  A
layout fixes the letters, an optional mark `0x`, and the least width of the
whole; zeros fill the width between the mark and the digits, and a minus sign
stands in front and counts towards the width.
-/

namespace Chip8.Text

/-- How a number is written in hexadecimal. -/
structure HexLayout where
  /-- Whether the digits above nine are capital letters. -/
  capitals : Bool
  /-- Whether `0x` stands before the digits. -/
  marked : Bool
  /-- The least number of characters, sign and mark included. -/
  width : Nat
  deriving DecidableEq, Repr

namespace HexLayout

def letter (layout : HexLayout) (digit : Char) : Char :=
  if layout.capitals then digit.toUpper else digit

/-- The digits of a natural number, without sign, mark and filling. -/
def digits (layout : HexLayout) (value : Nat) : List Char :=
  (Nat.toDigits 16 value).map layout.letter

/-- The sign and the mark that stand before the digits. -/
def lead (layout : HexLayout) (value : Int) : List Char :=
  (if value < 0 then ['-'] else []) ++ (if layout.marked then ['0', 'x'] else [])

def characters (layout : HexLayout) (value : Int) : List Char :=
  let lead := layout.lead value
  let digits := layout.digits value.natAbs
  lead ++ List.replicate (layout.width - lead.length - digits.length) '0' ++ digits

def render (layout : HexLayout) (value : Int) : String :=
  String.ofList (layout.characters value)

/-- Operands of an instruction: capital digits and nothing else. -/
def operand : HexLayout := ⟨true, false, 0⟩

def byte : HexLayout := ⟨true, false, 2⟩

def word : HexLayout := ⟨true, false, 4⟩

/-- A glyph number in a message: `0x` and two digits. -/
def glyph : HexLayout := ⟨false, true, 4⟩

/-- An address in a message: `0x` and three digits. -/
def address : HexLayout := ⟨false, true, 5⟩

/-- The address of a cycle: `0x` and four digits. -/
def cycleAddress : HexLayout := ⟨false, true, 6⟩

def image : HexLayout := ⟨false, false, 2⟩

end HexLayout

/-- The bytes of a memory image, two small digits each and nothing between. -/
def hexImage (bytes : List UInt8) : String :=
  String.ofList (bytes.flatMap fun byte => HexLayout.image.characters byte.toNat)

end Chip8.Text
