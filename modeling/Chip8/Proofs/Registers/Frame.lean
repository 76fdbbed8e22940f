import Chip8.Registers.Arithmetic
import Mathlib
/-!
What the operations on the register file leave alone: the number of registers,
and every register that is neither the target nor, where a flag is written,
the flag register.
-/

namespace Chip8.Registers

theorem get_setFlag_of_ne
    (registers : Registers) (raised : Bool) {other : Fin 16} (distinct : flagNumber ≠ other) :
    (registers.setFlag raised).get other = registers.get other :=
  get_set_of_ne registers _ distinct

@[simp]
theorem size_setFlag (registers : Registers) (raised : Bool) :
    (registers.setFlag raised).values.size = registers.values.size :=
  size_set registers flagNumber _

@[simp]
theorem size_addByte (registers : Registers) (x : Fin 16) (byte : UInt8) :
    (registers.addByte x byte).values.size = registers.values.size :=
  size_set registers x _

@[simp]
theorem size_combine
    (registers : Registers) (join : UInt8 → UInt8 → UInt8) (x y : Fin 16) (clearsFlag : Bool) :
    (registers.combine join x y clearsFlag).values.size = registers.values.size := by
  unfold combine
  split <;> simp

@[simp]
theorem size_add (registers : Registers) (x y : Fin 16) :
    (registers.add x y).values.size = registers.values.size := by
  simp [add]

@[simp]
theorem size_subtract (registers : Registers) (x : Fin 16) (minuend subtrahend : UInt8) :
    (registers.subtract x minuend subtrahend).values.size = registers.values.size := by
  simp [subtract]

@[simp]
theorem size_shiftRight (registers : Registers) (x : Fin 16) (source : UInt8) :
    (registers.shiftRight x source).values.size = registers.values.size := by
  simp [shiftRight]

@[simp]
theorem size_shiftLeft (registers : Registers) (x : Fin 16) (source : UInt8) :
    (registers.shiftLeft x source).values.size = registers.values.size := by
  simp [shiftLeft]

/-- Two register files agree on every register outside a list. -/
def AgreeOff (numbers : List (Fin 16)) (left right : Registers) : Prop :=
  ∀ number, number ∉ numbers → left.get number = right.get number

variable {registers : Registers} {x y : Fin 16}

theorem agreeOff_refl (numbers : List (Fin 16)) (registers : Registers) :
    AgreeOff numbers registers registers :=
  fun _ _ => rfl

theorem agreeOff_set (value : UInt8) : AgreeOff [x] (registers.set x value) registers := by
  intro number outside
  exact get_set_of_ne registers value fun same => outside (by simp [same])

theorem agreeOff_setFlag (raised : Bool) :
    AgreeOff [flagNumber] (registers.setFlag raised) registers :=
  agreeOff_set _

theorem agreeOff_setFlag_set (value : UInt8) (raised : Bool) :
    AgreeOff [x, flagNumber] ((registers.set x value).setFlag raised) registers := by
  intro number outside
  simp only [List.mem_cons, List.not_mem_nil, or_false, not_or] at outside
  rw [get_setFlag_of_ne _ _ (Ne.symm outside.2), get_set_of_ne _ _ (Ne.symm outside.1)]

theorem agreeOff_set_setFlag (value : UInt8) (raised : Bool) :
    AgreeOff [x, flagNumber] ((registers.setFlag raised).set x value) registers := by
  intro number outside
  simp only [List.mem_cons, List.not_mem_nil, or_false, not_or] at outside
  rw [get_set_of_ne _ _ (Ne.symm outside.1), get_setFlag_of_ne _ _ (Ne.symm outside.2)]

theorem agreeOff_combine (join : UInt8 → UInt8 → UInt8) (clearsFlag : Bool) :
    AgreeOff (if clearsFlag then [x, flagNumber] else [x])
      (registers.combine join x y clearsFlag) registers := by
  cases clearsFlag with
  | true => exact agreeOff_setFlag_set _ false
  | false => exact agreeOff_set _

/-- What a register holds after bytes have been loaded into the first ones. -/
theorem get_loadBytes (registers : Registers) (bytes : List UInt8) (number : Fin 16) :
    (registers.loadBytes bytes).get number = bytes.getD number.val (registers.get number) := by
  have enough := registers.sixteen_le
  have small := number.isLt
  simp only [get, loadBytes, List.getElem_toArray]
  by_cases loaded : number.val < bytes.length
  · rw [List.getElem_append_left loaded, List.getD_eq_getElem _ _ loaded]
  · have behind : bytes.length ≤ number.val := by omega
    have sum : bytes.length + (number.val - bytes.length) = number.val := by omega
    rw [List.getElem_append_right behind, List.getD_eq_default _ _ behind]
    simp only [List.getElem_drop, sum, Array.getElem_toList]

theorem agreeOff_loadBytes {bytes : List UInt8} (length : bytes.length = x.val + 1) :
    AgreeOff ((List.finRange 16).filter (· ≤ x)) (registers.loadBytes bytes) registers := by
  intro number outside
  have behind : x < number := by simpa using outside
  rw [get_loadBytes]
  apply List.getD_eq_default
  omega

end Chip8.Registers
