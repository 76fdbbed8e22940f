/-!
The map of the address space: glyphs low down, the program from `0x200`, and
from `0xEA0` on a part that no instruction may lie in.
-/

namespace Chip8.Memory

def cellCount : Nat := 4096

def programStart : Nat := 0x200

/-- Where the part reserved for the stack and the screen starts. -/
def reservedStart : Nat := 0xEA0

def instructionSize : Nat := 2

def glyphStart : Nat := 0x50

def glyphSize : Nat := 5

def glyphCount : Nat := 16

/-- The bytes between the start of programs and the reserved part; a program is shorter. -/
def programCapacity : Nat := reservedStart - programStart

def glyphs : List UInt8 :=
  [0xF0, 0x90, 0x90, 0x90, 0xF0,
   0x20, 0x60, 0x20, 0x20, 0x70,
   0xF0, 0x10, 0xF0, 0x80, 0xF0,
   0xF0, 0x10, 0xF0, 0x10, 0xF0,
   0x90, 0x90, 0xF0, 0x10, 0x10,
   0xF0, 0x80, 0xF0, 0x10, 0xF0,
   0xF0, 0x80, 0xF0, 0x90, 0xF0,
   0xF0, 0x10, 0x20, 0x40, 0x40,
   0xF0, 0x90, 0xF0, 0x90, 0xF0,
   0xF0, 0x90, 0xF0, 0x10, 0xF0,
   0xF0, 0x90, 0xF0, 0x90, 0x90,
   0xE0, 0x90, 0xE0, 0x90, 0xE0,
   0xF0, 0x80, 0x80, 0x80, 0xF0,
   0xE0, 0x90, 0x90, 0x90, 0xE0,
   0xF0, 0x80, 0xF0, 0x80, 0xF0,
   0xF0, 0x80, 0xF0, 0x80, 0x80]

/-- The program that runs when no other is given: it draws `C` and `8` and stops. -/
def demoProgram : List UInt8 :=
  [0x60, 0x00, 0x61, 0x00, 0x62, 0x0C, 0xF2, 0x29, 0xD0, 0x15,
   0x60, 0x05, 0x62, 0x08, 0xF2, 0x29, 0xD0, 0x15, 0x12, 0x12]

end Chip8.Memory
