/-!
Numbers taken apart into digits: the hexadecimal digits of an instruction
word, the bits of a byte, and the decimal digits a program asks to be stored.

All three read a number of any size and sign.  Division and remainder round
to the floor, so a negative number shows the digits of its two's complement.
-/

namespace Chip8.Word

/-- The hexadecimal digit of a number, counted from its least significant one. -/
def nibble (word : Int) (place : Nat) : Fin 16 :=
  ⟨(word / Nat.pow 16 place % 16).toNat, by omega⟩

/-- The four hexadecimal digits of a word, most significant first. -/
def nibbles (word : Int) : Fin 16 × Fin 16 × Fin 16 × Fin 16 :=
  (nibble word 3, nibble word 2, nibble word 1, nibble word 0)

/-- The eight bits of a byte, most significant first. -/
def bits (byte : Int) : List Bool :=
  [7, 6, 5, 4, 3, 2, 1, 0].map fun place : Nat =>
    decide (byte / Nat.pow 2 place % 2 = 1)

/-- The hundreds, tens and ones of a number; the hundreds are not bounded. -/
def decimalDigits (value : Int) : Int × Int × Int :=
  (value / 100, value / 10 % 10, value % 10)

/-- The low eight bits of a number. -/
def lowByte (value : Int) : UInt8 :=
  UInt8.ofNat (value % 256).toNat

/-- A number that is a byte, or nothing. -/
def byte? (value : Int) : Option UInt8 :=
  if 0 ≤ value ∧ value ≤ 255 then some (lowByte value) else none

def ofBytes (high low : UInt8) : Int :=
  256 * (high.toNat : Int) + (low.toNat : Int)

@[simp]
theorem length_bits (byte : Int) : (bits byte).length = 8 := by
  simp [bits]

@[simp]
theorem toNat_lowByte (value : Int) : ((lowByte value).toNat : Int) = value % 256 := by
  simp only [lowByte, UInt8.toNat_ofNat']
  omega

/-- A word of two bytes has sixteen bits. -/
theorem ofBytes_mem_range (high low : UInt8) :
    0 ≤ ofBytes high low ∧ ofBytes high low < 0x10000 := by
  have highBound := high.toNat_lt
  have lowBound := low.toNat_lt
  unfold ofBytes
  omega

theorem byte?_eq_some_iff {value : Int} {byte : UInt8} :
    byte? value = some byte ↔ value = (byte.toNat : Int) := by
  have bound := byte.toNat_lt
  unfold byte?
  constructor
  · intro found
    split at found
    · rw [← Option.some.inj found, toNat_lowByte]
      omega
    · simp at found
  · rintro rfl
    rw [if_pos (by omega)]
    congr 1
    apply UInt8.toNat_inj.mp
    have same := toNat_lowByte (byte.toNat : Int)
    omega

end Chip8.Word
