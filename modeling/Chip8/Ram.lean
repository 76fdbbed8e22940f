import Chip8.Fault
/-!
A memory device: a fixed number of byte cells behind checked addresses.  An
access outside the device changes nothing, and a block is written as a whole
or not at all.
-/

namespace Chip8

/-- A memory device of the given size. -/
structure Ram (size : Length) where
  cells : Vector UInt8 size.count
  deriving DecidableEq, Repr

/-- The bytes of a block given as numbers; every number must be a byte. -/
def bytesOfBlock? (block : List Int) : Except Fault (List UInt8) :=
  match block.mapM Word.byte? with
  | some bytes => .ok bytes
  | none => .error .blockData

/-- Cells with a row of bytes put over them; what lies past the end is dropped. -/
def overwrite {count : Nat} (cells : Vector UInt8 count) (start : Nat) :
    List UInt8 → Vector UInt8 count
  | [] => cells
  | byte :: rest => overwrite (cells.setIfInBounds start byte) (start + 1) rest

theorem getElem?_overwrite {count : Nat} (cells : Vector UInt8 count) (start : Nat)
    (bytes : List UInt8) (place : Nat) :
    (overwrite cells start bytes)[place]? =
      if start ≤ place ∧ place < start + bytes.length ∧ place < count then
        bytes[place - start]?
      else
        cells[place]? := by
  induction bytes generalizing cells start with
  | nil =>
      rw [if_neg (by simp; omega)]
      rfl
  | cons byte rest inductionHypothesis =>
      rw [overwrite, inductionHypothesis]
      simp only [Vector.getElem?_setIfInBounds, List.length_cons]
      by_cases first : place = start
      · subst first
        rw [if_neg (by omega)]
        by_cases inside : place < count <;> simp [inside]
      · by_cases behind : start + 1 ≤ place
        · have distance : place - start = place - (start + 1) + 1 := by omega
          have different : ¬ start = place := by omega
          by_cases inside : place < start + 1 + rest.length ∧ place < count
          · rw [if_pos ⟨behind, inside⟩, if_pos (by omega), distance, List.getElem?_cons_succ]
          · rw [if_neg (by omega), if_neg different, if_neg (by omega)]
        · have different : ¬ start = place := by omega
          rw [if_neg (by omega), if_neg different, if_neg (by omega)]

namespace Ram

variable {size : Length}

/-- The size of a device, if it is a length at all; there must be one cell at least. -/
def size? (asked : Option Length) : Except Fault Length :=
  match asked with
  | none => .error .ramSize
  | some size =>
      if size.value ≤ 0 then .error .ramSize
      else do
        checkCells size.value
        return size

def blank : Ram size := ⟨Vector.replicate size.count 0⟩

/-- Whether `length` cells from an address on lie inside the device. -/
def InRange (size : Length) (address length : Int) : Prop :=
  0 ≤ address ∧ address + length ≤ size.count

instance (address length : Int) : Decidable (InRange size address length) :=
  inferInstanceAs (Decidable (_ ∧ _))

def read (ram : Ram size) (address : Int) : Except Fault UInt8 :=
  if inside : InRange size address 1 then
    have bound : address.toNat < size.count := by unfold InRange at inside; omega
    .ok ram.cells[address.toNat]
  else
    .error (.ramAddress address size)

/-- Put one byte at an address; the address is checked before the value. -/
def write (ram : Ram size) (address data : Int) : Except Fault (Ram size) :=
  if InRange size address 1 then
    match Word.byte? data with
    | some byte => .ok ⟨ram.cells.setIfInBounds address.toNat byte⟩
    | none => .error (.ramData data)
  else
    .error (.ramAddress address size)

/--
The bytes of a block.  The end of a block of negative length may lie before
the first cell; it then counts back from the end of the device.
-/
def readBlock (ram : Ram size) (address length : Int) : Except Fault (List UInt8) :=
  if InRange size address length then
    let finish := address + length
    let finish := if finish < 0 then finish + size.count else finish
    .ok (ram.cells.toArray.extract address.toNat finish.toNat).toList
  else
    .error (.ramAddress address size)

def readPair (ram : Ram size) (address : Int) : Except Fault (UInt8 × UInt8) :=
  if inside : InRange size address 2 then
    have bound : address.toNat + 1 < size.count := by unfold InRange at inside; omega
    .ok (ram.cells[address.toNat], ram.cells[address.toNat + 1])
  else
    .error (.ramAddress address size)

def writeBytes (ram : Ram size) (address : Int) (bytes : List UInt8) :
    Except Fault (Ram size) :=
  if InRange size address bytes.length then
    .ok ⟨overwrite ram.cells address.toNat bytes⟩
  else
    .error (.ramAddress address size)

/-- Put a block of numbers at an address; the numbers are checked before the address. -/
def writeBlock (ram : Ram size) (address : Int) (block : List Int) :
    Except Fault (Ram size) := do
  let bytes ← bytesOfBlock? block
  ram.writeBytes address bytes

/-- Add a changed cell to the runs of changes, which are kept latest first. -/
def addChange (runs : List (Nat × List UInt8)) (address : Nat) (byte : UInt8) :
    List (Nat × List UInt8) :=
  match runs with
  | (start, bytes) :: rest =>
      if start + bytes.length = address then (start, bytes ++ [byte]) :: rest
      else (address, [byte]) :: runs
  | [] => [(address, [byte])]

/-- The runs of adjacent cells that differ, with their new bytes, by rising address. -/
def changes (before after : Ram size) : List (Nat × List UInt8) :=
  ((List.range size.count).foldl (fun runs address =>
    match before.cells[address]?, after.cells[address]? with
    | some old, some new => if old = new then runs else addChange runs address new
    | _, _ => runs) []).reverse

end Ram

end Chip8
