import Chip8.Memory
import Mathlib
/-!
Memory as bytes at addresses.  Fetching gives the big-endian word at the
program counter, and a window either lies below the end of memory, where all
its bytes are read or written, or is refused as a whole.
-/

namespace Chip8

namespace Ram

variable {size : Length}

/-- The byte at an address, which is zero where there is no cell. -/
def byteAt (ram : Ram size) (address : Int) : UInt8 :=
  ram.cells[address.toNat]?.getD 0

/-- A device with a row of bytes put over its cells from an address on. -/
def overwriteAt (ram : Ram size) (address : Int) (bytes : List UInt8) : Ram size :=
  ⟨overwrite ram.cells address.toNat bytes⟩

theorem read_eq_ok
    (ram : Ram size) {address : Int} (nonneg : 0 ≤ address) (inside : address + 1 ≤ size.count) :
    ram.read address = .ok (ram.byteAt address) := by
  have range : InRange size address 1 := ⟨nonneg, inside⟩
  unfold read
  rw [dif_pos range]
  simp only [byteAt]
  rw [Vector.getElem?_eq_getElem (by omega)]
  rfl

theorem readPair_eq_ok
    (ram : Ram size) {address : Int}
    (nonneg : 0 ≤ address) (inside : address + 2 ≤ size.count) :
    ram.readPair address = .ok (ram.byteAt address, ram.byteAt (address + 1)) := by
  have range : InRange size address 2 := ⟨nonneg, inside⟩
  have next : (address + 1).toNat = address.toNat + 1 := by omega
  unfold readPair
  rw [dif_pos range]
  simp only [byteAt, next]
  rw [Vector.getElem?_eq_getElem (by omega), Vector.getElem?_eq_getElem (by omega)]
  rfl

theorem writeBytes_eq_ok
    (ram : Ram size) {address : Int} {bytes : List UInt8}
    (nonneg : 0 ≤ address) (inside : address + bytes.length ≤ size.count) :
    ram.writeBytes address bytes = .ok (ram.overwriteAt address bytes) :=
  if_pos ⟨nonneg, inside⟩

/-- The bytes of a block that lies inside the device, one for each address. -/
theorem readBlock_eq_ok
    (ram : Ram size) {address : Int} {length : Nat}
    (nonneg : 0 ≤ address) (inside : address + length ≤ size.count) :
    ram.readBlock address length =
      .ok ((List.range length).map fun place : Nat => ram.byteAt (address + place)) := by
  have range : InRange size address length := ⟨nonneg, inside⟩
  unfold readBlock
  rw [if_pos range]
  simp only [if_neg (show ¬ address + (length : Int) < 0 by omega), Except.ok.injEq]
  apply List.ext_getElem
  · simp
    omega
  · intro place _ bound
    have small : place < length := by simpa using bound
    have sum : (address + (place : Int)).toNat = address.toNat + place := by omega
    simp only [Array.getElem_toList, Array.getElem_extract, List.getElem_map,
      List.getElem_range, byteAt, sum]
    rw [Vector.getElem?_eq_getElem (by omega)]
    rfl

theorem byteAt_blank (address : Int) : (blank : Ram size).byteAt address = 0 := by
  simp only [byteAt, blank, Vector.getElem?_replicate]
  split <;> rfl

/-- What an address holds after a row of bytes has been put over the cells. -/
theorem byteAt_overwriteAt
    (ram : Ram size) {start address : Int} {bytes : List UInt8}
    (startNonneg : 0 ≤ start) (inside : start + bytes.length ≤ size.count)
    (nonneg : 0 ≤ address) :
    (ram.overwriteAt start bytes).byteAt address =
      if start ≤ address ∧ address < start + bytes.length then
        bytes.getD (address - start).toNat 0
      else
        ram.byteAt address := by
  have places : start.toNat ≤ address.toNat ∧ address.toNat < start.toNat + bytes.length ∧
      address.toNat < size.count ↔ start ≤ address ∧ address < start + bytes.length := by
    omega
  have distance : (address - start).toNat = address.toNat - start.toNat := by omega
  simp only [byteAt, overwriteAt, getElem?_overwrite, places, distance]
  split
  next covered => rw [List.getD_eq_getElem?_getD]
  next free => rfl

end Ram

namespace Memory

/-- The byte at an address. -/
def byteAt (memory : Memory) (address : Int) : UInt8 :=
  memory.ram.byteAt address

/-- The big-endian word at an address. -/
def wordAt (memory : Memory) (address : Int) : Int :=
  Word.ofBytes (memory.byteAt address) (memory.byteAt (address + 1))

/-- The bytes of the window of a length at the index register. -/
def window (memory : Memory) (count : Nat) : List UInt8 :=
  (List.range count).map fun place : Nat => memory.byteAt (memory.index + place)

@[simp]
theorem length_window (memory : Memory) (count : Nat) :
    (memory.window count).length = count := by
  simp [window]

theorem fetch_eq_error
    {memory : Memory} (outside : reservedStart < memory.programCounter + instructionSize) :
    memory.fetch = .error (.fetchOutside memory.programCounter) memory :=
  if_pos outside

theorem fetch_eq_ok
    {memory : Memory} (nonneg : 0 ≤ memory.programCounter)
    (inside : memory.programCounter + instructionSize ≤ reservedStart) :
    memory.fetch = .ok (memory.wordAt memory.programCounter) memory.advance := by
  have room : memory.programCounter + 2 ≤ (Length.number cellCount).count := by
    simp only [instructionSize, reservedStart] at inside
    simp only [Length.count_number, cellCount]
    omega
  unfold fetch
  rw [if_neg (by omega), memory.ram.readPair_eq_ok nonneg room]
  rfl

/-- An address that a program may continue at. -/
def InProgram (address : Int) : Prop :=
  programStart ≤ address ∧ address ≤ reservedStart

instance (address : Int) : Decidable (InProgram address) :=
  inferInstanceAs (Decidable (_ ∧ _))

/-- The fault of a jump to an address, if it must not be taken. -/
def jumpFault? (address : Int) : Option Fault :=
  if InProgram address then none else some (.jumpOutside address)

/-- The fault of an access to a window of a length, if it runs past the end of memory. -/
def windowFault? (memory : Memory) (count : Nat) : Option Fault :=
  if memory.index + count ≤ cellCount then none else some (.windowOutside count memory.index)

theorem jump_eq (memory : Memory) (address : Int) :
    memory.jump address =
      match jumpFault? address with
      | some fault => .error fault
      | none => .ok { memory with programCounter := address } := by
  unfold jumpFault?
  by_cases inside : InProgram address
  · rw [if_pos inside]
    exact if_pos inside
  · rw [if_neg inside]
    exact if_neg inside

theorem checkWindow_eq (memory : Memory) (count : Nat) :
    memory.checkWindow count =
      match memory.windowFault? count with
      | some fault => .error fault
      | none => .ok () := by
  unfold checkWindow windowFault?
  by_cases inside : memory.index + count ≤ cellCount
  · rw [if_neg (by omega), if_pos inside]
  · rw [if_pos (by omega), if_neg inside]

theorem windowFault?_eq_none_iff {memory : Memory} {count : Nat} :
    memory.windowFault? count = none ↔ memory.index + count ≤ cellCount := by
  simp [windowFault?]

/-- A window is read as a whole or not at all. -/
theorem readWindow_eq
    {memory : Memory} (nonneg : 0 ≤ memory.index) (count : Nat) :
    memory.readWindow count =
      match memory.windowFault? count with
      | some fault => .error fault
      | none => .ok (memory.window count) := by
  simp only [readWindow, checkWindow_eq]
  cases checked : memory.windowFault? count with
  | some fault => rfl
  | none => exact memory.ram.readBlock_eq_ok nonneg (windowFault?_eq_none_iff.mp checked)

/-- A window is written as a whole or not at all. -/
theorem writeWindow_eq
    {memory : Memory} (nonneg : 0 ≤ memory.index) (bytes : List UInt8) :
    memory.writeWindow bytes =
      match memory.windowFault? bytes.length with
      | some fault => .error fault
      | none => .ok { memory with ram := memory.ram.overwriteAt memory.index bytes } := by
  simp only [writeWindow, checkWindow_eq]
  cases checked : memory.windowFault? bytes.length with
  | some fault => rfl
  | none =>
      simp only
      rw [memory.ram.writeBytes_eq_ok nonneg (windowFault?_eq_none_iff.mp checked)]
      rfl

/-- The three decimal digits of a byte, as they are stored. -/
def decimalBytes (value : UInt8) : List UInt8 :=
  [value / 100, value / 10 % 10, value % 10]

/-- The digits of a byte are bytes, so that only the window can be refused. -/
theorem writeDecimal_byte
    (memory : Memory) (value : UInt8) :
    memory.writeDecimal value.toNat = memory.writeWindow (decimalBytes value) := by
  have hundreds : Word.byte? ((value.toNat : Int) / 100) = some (value / 100) :=
    Word.byte?_eq_some_iff.mpr (by simp)
  have tens : Word.byte? ((value.toNat : Int) / 10 % 10) = some (value / 10 % 10) :=
    Word.byte?_eq_some_iff.mpr (by simp)
  have ones : Word.byte? ((value.toNat : Int) % 10) = some (value % 10) :=
    Word.byte?_eq_some_iff.mpr (by simp)
  simp only [writeDecimal, Word.decimalDigits, writeNumbers, bytesOfBlock?, List.mapM_cons,
    List.mapM_nil, hundreds, tens, ones]
  rfl

end Memory

end Chip8
