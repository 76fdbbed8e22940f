import Chip8.Proofs.Memory.Window
import Chip8.Registers
import Mathlib
/-!
Bytes that go from one place to another and back.  What has been put in a
window is read from it, blocks that are written one after another are one block,
and the registers that are filled with a dump hold it again.
-/

namespace Chip8

namespace Ram

variable {size : Length}

/-- Two adjacent blocks are one block. -/
theorem overwriteAt_append
    (ram : Ram size) {address : Int} (nonneg : 0 ≤ address) (first second : List UInt8) :
    ram.overwriteAt address (first ++ second) =
      (ram.overwriteAt address first).overwriteAt (address + first.length) second := by
  have joined {count : Nat} (cells : Vector UInt8 count) (start : Nat) :
      overwrite cells start (first ++ second) =
        overwrite (overwrite cells start first) (start + first.length) second := by
    induction first generalizing cells start with
    | nil => rfl
    | cons byte rest inductionHypothesis =>
        rw [List.cons_append, overwrite, overwrite, inductionHypothesis, List.length_cons,
          Nat.add_assoc, Nat.add_comm 1]
  have place : (address + first.length).toNat = address.toNat + first.length := by omega
  simp only [overwriteAt, joined, place]

/-- The bytes of a block stand one after another. -/
theorem byteAt_overwriteAt_add
    (ram : Ram size) {start : Int} {bytes : List UInt8} {place : Nat} (nonneg : 0 ≤ start)
    (inside : start + bytes.length ≤ size.count) (covered : place < bytes.length) :
    (ram.overwriteAt start bytes).byteAt (start + place) = bytes.getD place 0 := by
  have distance : (start + (place : Int) - start).toNat = place := by omega
  rw [ram.byteAt_overwriteAt nonneg inside (by omega), if_pos (by omega), distance]

end Ram

namespace Memory

/-- A window goes on where a shorter one ends. -/
theorem window_add (memory : Memory) (first second : Nat) :
    memory.window (first + second) =
      memory.window first ++
        ({ memory with index := memory.index + first } : Memory).window second := by
  simp only [window, List.range_add, List.map_append, List.map_map]
  congr 1
  apply List.map_congr_left
  intro place _
  have address : memory.index + ((first + place : Nat) : Int) =
      memory.index + first + (place : Int) := by omega
  simp only [Function.comp_apply, byteAt, address]

theorem getD_window (memory : Memory) {count place : Nat} (inside : place < count) :
    (memory.window count).getD place 0 = memory.byteAt (memory.index + place) := by
  rw [List.getD_eq_getElem _ _ (by rwa [length_window])]
  simp [window]

/-- A window holds the bytes that have been put in it. -/
theorem window_of_overwritten
    {memory later : Memory} {bytes : List UInt8} (nonneg : 0 ≤ memory.index)
    (inside : memory.index + bytes.length ≤ 0x1000)
    (ram : later.ram = memory.ram.overwriteAt memory.index bytes)
    (index : later.index = memory.index) :
    later.window bytes.length = bytes := by
  apply List.ext_getElem
  · apply length_window
  · intro place _ bound
    have byte := memory.ram.byteAt_overwriteAt_add nonneg inside bound
    rw [List.getD_eq_getElem _ _ bound] at byte
    simp only [window, List.getElem_map, List.getElem_range, byteAt, ram, index, byte]

/-- The digits of a number as they are stored. -/
def digitBytes (value : Int) : List UInt8 :=
  [Word.lowByte (value / 100), Word.lowByte (value / 10 % 10), Word.lowByte (value % 10)]

theorem writeDecimal_of_digits
    (memory : Memory) {value : Int} (nonneg : 0 ≤ value) (small : value < 25600) :
    memory.writeDecimal value = memory.writeWindow (digitBytes value) := by
  have hundreds : Word.byte? (value / 100) = some (Word.lowByte (value / 100)) :=
    if_pos (by omega)
  have tens : Word.byte? (value / 10 % 10) = some (Word.lowByte (value / 10 % 10)) :=
    if_pos (by omega)
  have ones : Word.byte? (value % 10) = some (Word.lowByte (value % 10)) :=
    if_pos (by omega)
  simp only [writeDecimal, Word.decimalDigits, writeNumbers, bytesOfBlock?, List.mapM_cons,
    List.mapM_nil, hundreds, tens, ones]
  rfl

/-- The hundreds must be a byte. -/
theorem writeDecimal_of_large
    (memory : Memory) {value : Int} (outside : value < 0 ∨ 25600 ≤ value) :
    memory.writeDecimal value = .error .blockData := by
  have hundreds : Word.byte? (value / 100) = none := by
    apply if_neg
    omega
  simp only [writeDecimal, Word.decimalDigits, writeNumbers, bytesOfBlock?, List.mapM_cons,
    hundreds]
  rfl

end Memory

namespace Registers

variable (registers : Registers)

theorem getD_dump {number last : Fin 16} (dumped : number ≤ last) :
    (registers.dump last.val).getD number.val 0 = registers.get number := by
  have enough := registers.sixteen_le
  have inside : number.val < (registers.dump last.val).length := by
    rw [length_dump]
    exact Nat.lt_succ_of_le dumped
  rw [List.getD_eq_getElem _ _ inside]
  simp [dump, get]

theorem dump_loadBytes {last : Fin 16} {bytes : List UInt8} (length : bytes.length = last.val + 1) :
    (registers.loadBytes bytes).dump last.val = bytes := by
  have span : (registers.loadBytes bytes).span last.val = bytes.length := by
    simp only [Registers.span]
    omega
  rw [dump, span, loadBytes, List.toList_toArray]
  apply List.take_left

end Registers

end Chip8
