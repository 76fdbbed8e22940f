/-!
Lengths as they are asked for.  A length is a number, or a truth value that
counts as one or zero and is shown as it was asked for.
-/

namespace Chip8

/-- The length of a device, as it was asked for. -/
inductive Length where
  | number (value : Int)
  | truth (value : Bool)
  deriving DecidableEq, Repr

namespace Length

/-- The most cells that a device can be asked to have, `2 ^ 63 - 1`. -/
def greatest : Int := 0x7FFFFFFFFFFFFFFF

/-- The least number of times that a block can be asked to be repeated, `-2 ^ 63`. -/
def least : Int := -0x8000000000000000

/-- The most cells that a host is assumed to have memory for, `2 ^ 32`. -/
def assumedMemory : Int := 0x100000000

def value : Length → Int
  | number value => value
  | truth value => if value then 1 else 0

/-- The number of cells in a row of this length; a negative length has none. -/
def count (length : Length) : Nat :=
  length.value.toNat

def text : Length → String
  | number value => toString value
  | truth value => if value then "True" else "False"

@[simp]
theorem count_number (count : Nat) : (number count).count = count := rfl

end Length

end Chip8
