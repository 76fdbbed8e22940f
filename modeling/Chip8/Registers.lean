import Chip8.Fault
/-!
The file of general registers V0 to VF.  The machine names a register by a
four-bit number and never fails; a host may also count from the end, and its
numbers and values are checked.
-/

namespace Chip8

/-- The general registers; there are sixteen unless a host has loaded more. -/
structure Registers where
  values : Array UInt8
  sixteen_le : 16 ≤ values.size := by decide
  deriving DecidableEq, Repr

namespace Registers

def count : Nat := 16

/-- The register that holds carries, borrows, lost bits and collisions. -/
def flagNumber : Fin 16 := ⟨15, by decide⟩

/-- The register whose value is added to an address, unless the dialect takes another. -/
def offsetNumber : Fin 16 := ⟨0, by decide⟩

def initial : Registers where
  values := Array.replicate 16 0

def get (registers : Registers) (number : Fin 16) : UInt8 :=
  have bound : number.val < registers.values.size := by
    have := registers.sixteen_le
    omega
  registers.values[number.val]

def set (registers : Registers) (number : Fin 16) (value : UInt8) : Registers where
  values := registers.values.setIfInBounds number.val value
  sixteen_le := by simpa using registers.sixteen_le

@[simp]
theorem size_set (registers : Registers) (number : Fin 16) (value : UInt8) :
    (registers.set number value).values.size = registers.values.size := by
  simp [set]

@[simp]
theorem get_set_self (registers : Registers) (number : Fin 16) (value : UInt8) :
    (registers.set number value).get number = value := by
  simp [get, set]

theorem get_set_of_ne (registers : Registers) {number other : Fin 16} (value : UInt8)
    (distinct : number ≠ other) :
    (registers.set number value).get other = registers.get other := by
  have apart : number.val ≠ other.val := fun same => distinct (Fin.ext same)
  exact Array.getElem_setIfInBounds_ne _ apart

def flag (registers : Registers) : UInt8 :=
  registers.get flagNumber

def setFlag (registers : Registers) (raised : Bool) : Registers :=
  registers.set flagNumber (if raised then 1 else 0)

@[simp]
theorem flag_setFlag (registers : Registers) (raised : Bool) :
    (registers.setFlag raised).flag = if raised then 1 else 0 := by
  simp [flag, setFlag]

/-- The place of a register that a host names, counting from the end when negative. -/
def position? (registers : Registers) (number : Int) : Option Nat :=
  let number := if number < 0 then number + registers.values.size else number
  if 0 ≤ number ∧ number < registers.values.size then some number.toNat else none

def read (registers : Registers) (number : Int) : Except Fault UInt8 :=
  match registers.position? number with
  | some position => .ok (registers.values.getD position 0)
  | none => .error .registerNumber

/-- Put a value in a register that a host names; the value is checked first. -/
def write (registers : Registers) (number value : Int) : Except Fault Registers :=
  match Word.byte? value, registers.position? number with
  | none, _ => .error (.registerValue value)
  | some _, none => .error .registerNumber
  | some byte, some position =>
      .ok { values := registers.values.setIfInBounds position byte
            sixteen_le := by simpa using registers.sixteen_le }

/-- How many registers come before the end of `V0..Vlast`, counting from the end when negative. -/
def span (registers : Registers) (last : Int) : Nat :=
  let finish := last + 1
  (if finish < 0 then finish + registers.values.size else finish).toNat

/-- The values of `V0..Vlast`. -/
def dump (registers : Registers) (last : Int) : List UInt8 :=
  registers.values.toList.take (registers.span last)

/-- The registers with `V0..` replaced by as many bytes; more bytes make more registers. -/
def loadBytes (registers : Registers) (bytes : List UInt8) : Registers where
  values := (bytes ++ registers.values.toList.drop bytes.length).toArray
  sixteen_le := by
    have := registers.sixteen_le
    simp only [List.size_toArray, List.length_append, List.length_drop, Array.length_toList]
    omega

/-- As many bytes as there are registers, or fewer, leave their number alone. -/
theorem size_loadBytes (registers : Registers) {bytes : List UInt8}
    (fits : bytes.length ≤ registers.values.size) :
    (registers.loadBytes bytes).values.size = registers.values.size := by
  simp only [loadBytes, List.size_toArray, List.length_append, List.length_drop,
    Array.length_toList]
  omega

theorem length_dump (registers : Registers) (last : Fin 16) :
    (registers.dump last.val).length = last.val + 1 := by
  have enough := registers.sixteen_le
  simp only [dump, span, List.length_take, Array.length_toList]
  omega

/-- Put values in `V0..Vlast`; their number is checked before they are. -/
def load (registers : Registers) (last : Int) (block : List Int) :
    Except Fault Registers :=
  if (block.length : Int) = last + 1 then
    match block.mapM Word.byte? with
    | some bytes => .ok (registers.loadBytes bytes)
    | none => .error .blockData
  else
    .error (.registerCount last block.length)

/-- Text without the spaces at its end. -/
def trimSpaces (characters : List Char) : List Char :=
  (characters.reverse.dropWhile (· = ' ')).reverse

def row (cells : List String) : String :=
  let line := "  ".intercalate (cells.map (· ++ " "))
  "[" ++ String.ofList (trimSpaces line.toList) ++ "]"

/-- The names of the sixteen registers, and all values below them. -/
def text (registers : Registers) : String :=
  let names := (List.range count).map fun number : Nat =>
    "V" ++ Text.HexLayout.operand.render number
  let values := registers.values.toList.map fun value =>
    Text.HexLayout.byte.render value.toNat
  row names ++ "\n" ++ row values

end Registers

end Chip8
