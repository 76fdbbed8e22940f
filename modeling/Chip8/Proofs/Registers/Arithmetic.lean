import Chip8.Proofs.Registers.Frame
import Mathlib
/-!
The arithmetic of the registers in numbers.  While the result and the flag lie
in two registers, they are two parts of one number, and nothing of the operands
is lost.  In one register the part that is written last is all that is left:
the flag of a sum or a difference, the result of a shift.
-/

namespace Chip8.Registers

/-- The value of a register as a number. -/
def value (registers : Registers) (number : Fin 16) : Int :=
  (registers.get number).toNat

variable (registers : Registers) {x y : Fin 16}

theorem value_mem_range (number : Fin 16) :
    0 ≤ registers.value number ∧ registers.value number < 256 := by
  have small := (registers.get number).toNat_lt
  unfold value
  omega

theorem value_setFlag (raised : Bool) :
    (registers.setFlag raised).value flagNumber = if raised then 1 else 0 := by
  have written : (registers.setFlag raised).get flagNumber = if raised then 1 else 0 :=
    registers.flag_setFlag raised
  rw [value, written]
  cases raised <;> rfl

theorem value_setFlag_set (distinct : x ≠ flagNumber) (result : UInt8) (raised : Bool) :
    ((registers.set x result).setFlag raised).value x = result.toNat := by
  rw [value, get_setFlag_of_ne _ _ (Ne.symm distinct), get_set_self]

theorem value_set (result : UInt8) : (registers.set x result).value x = result.toNat := by
  rw [value, get_set_self]

theorem value_set_setFlag (distinct : x ≠ flagNumber) (result : UInt8) (raised : Bool) :
    ((registers.setFlag raised).set x result).value flagNumber = if raised then 1 else 0 := by
  rw [value, get_set_of_ne _ _ distinct]
  exact registers.value_setFlag raised

theorem flag_add :
    (registers.add x y).value flagNumber =
      if 255 < registers.value x + registers.value y then 1 else 0 := by
  have sum : 255 < registers.value x + registers.value y ↔
      255 < (registers.get x).toNat + (registers.get y).toNat := by
    unfold value
    omega
  rw [add, value_setFlag]
  simp only [sum, decide_eq_true_eq]

/-- The flag is the carry of the sum. -/
theorem value_add (distinct : x ≠ flagNumber) :
    256 * (registers.add x y).value flagNumber + (registers.add x y).value x =
      registers.value x + registers.value y := by
  have carry := registers.flag_add (x := x) (y := y)
  have rest : (registers.add x y).value x =
      (registers.value x + registers.value y) % 256 := by
    rw [add, registers.value_setFlag_set distinct, UInt8.toNat_add]
    rfl
  have left := registers.value_mem_range x
  have right := registers.value_mem_range y
  rw [carry, rest]
  split <;> omega

theorem flag_subtract (minuend subtrahend : UInt8) :
    (registers.subtract x minuend subtrahend).value flagNumber =
      if (subtrahend.toNat : Int) ≤ minuend.toNat then 1 else 0 := by
  rw [subtract, value_setFlag]
  simp only [decide_eq_true_eq, UInt8.le_iff_toNat_le, Int.ofNat_le]

/-- Where the flag is clear, 256 has been borrowed for the difference. -/
theorem value_subtract (distinct : x ≠ flagNumber) (minuend subtrahend : UInt8) :
    (registers.subtract x minuend subtrahend).value x -
        256 * (1 - (registers.subtract x minuend subtrahend).value flagNumber) =
      minuend.toNat - subtrahend.toNat := by
  have borrow := registers.flag_subtract (x := x) minuend subtrahend
  have rest : (registers.subtract x minuend subtrahend).value x =
      (minuend - subtrahend).toNat := registers.value_setFlag_set distinct _ _
  have difference := UInt8.toNat_sub minuend subtrahend
  have left := minuend.toNat_lt
  have right := subtrahend.toNat_lt
  rw [borrow, rest]
  split <;> omega

theorem value_addByte (byte : UInt8) :
    (registers.addByte x byte).value x = (registers.value x + byte.toNat) % 256 := by
  rw [addByte, value_set, UInt8.toNat_add]
  rfl

theorem value_shiftRight (source : UInt8) :
    (registers.shiftRight x source).value x = source.toNat / 2 := by
  rw [shiftRight, value_set, UInt8.toNat_div]
  rfl

/-- The flag is the remainder of the half. -/
theorem flag_shiftRight (distinct : x ≠ flagNumber) (source : UInt8) :
    (registers.shiftRight x source).value flagNumber = source.toNat % 2 := by
  have odd : source % 2 = 1 ↔ source.toNat % 2 = 1 := by
    rw [← UInt8.toNat_inj, UInt8.toNat_mod]
    rfl
  rw [shiftRight, registers.value_set_setFlag distinct]
  simp only [decide_eq_true_eq, odd]
  split <;> omega

/-- A half and its remainder are all that is shifted. -/
theorem half_shiftRight (distinct : x ≠ flagNumber) (source : UInt8) :
    2 * (registers.shiftRight x source).value x +
          (registers.shiftRight x source).value flagNumber = source.toNat ∧
      ((registers.shiftRight x source).value flagNumber = 0 ∨
        (registers.shiftRight x source).value flagNumber = 1) := by
  rw [value_shiftRight, registers.flag_shiftRight distinct]
  omega

theorem value_shiftLeft (source : UInt8) :
    (registers.shiftLeft x source).value x = 2 * source.toNat % 256 := by
  rw [shiftLeft, value_set, UInt8.toNat_add]
  omega

/-- The flag is the carry of the double. -/
theorem flag_shiftLeft (distinct : x ≠ flagNumber) (source : UInt8) :
    (registers.shiftLeft x source).value flagNumber = 2 * source.toNat / 256 := by
  have high : 128 ≤ source ↔ 128 ≤ source.toNat := UInt8.le_iff_toNat_le
  have small := source.toNat_lt
  rw [shiftLeft, registers.value_set_setFlag distinct]
  simp only [decide_eq_true_eq, high]
  split <;> omega

/-- A double and its carry are twice what is shifted. -/
theorem double_shiftLeft (distinct : x ≠ flagNumber) (source : UInt8) :
    256 * (registers.shiftLeft x source).value flagNumber +
          (registers.shiftLeft x source).value x = 2 * source.toNat ∧
      ((registers.shiftLeft x source).value flagNumber = 0 ∨
        (registers.shiftLeft x source).value flagNumber = 1) := by
  have small := source.toNat_lt
  rw [value_shiftLeft, registers.flag_shiftLeft distinct]
  omega

variable (join : UInt8 → UInt8 → UInt8)

theorem get_combine (clearsFlag : Bool) (kept : x ≠ flagNumber ∨ clearsFlag = false) :
    (registers.combine join x y clearsFlag).get x =
      join (registers.get x) (registers.get y) := by
  unfold combine
  cases clearsFlag with
  | false => exact registers.get_set_self x _
  | true =>
      have distinct : x ≠ flagNumber := by simpa using kept
      exact (get_setFlag_of_ne _ _ (Ne.symm distinct)).trans (registers.get_set_self x _)

theorem value_combine_flag :
    (registers.combine join x y true).value flagNumber = 0 :=
  value_setFlag _ false

end Chip8.Registers
