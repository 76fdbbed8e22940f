import Chip8.Proofs.Memory.Disassembly
import Mathlib
/-!
Listings of any range.  A listing from an address on that is not negative cannot
fail, however long it is asked to be and whatever the memory holds.  Its lines
stand two cells apart and show every byte of the range once; the last cell of
the memory can only be the second byte of a line.  A listing gives nothing but
lines, so the memory is what it was.
-/

namespace Chip8

namespace ListingLine

/-- A line shows the byte at its address and the next one. -/
def Covers (line : ListingLine) (address : Int) : Prop :=
  address = line.address ∨ address = line.address + 1

instance (line : ListingLine) (address : Int) : Decidable (line.Covers address) :=
  inferInstanceAs (Decidable (_ ∨ _))

end ListingLine

namespace Memory

variable {memory : Memory} {start length : Int} {jumpsByX : Bool} {lines : List ListingLine}

theorem getElem?_lineAddresses (start finish : Int) (place : Nat) :
    (lineAddresses start finish)[place]? =
      if start + 2 * place < finish then some (start + 2 * (place : Int)) else none := by
  have small : place < ((finish - start + 1) / 2).toNat ↔ start + 2 * place < finish := by omega
  by_cases before : start + 2 * place < finish
  · rw [if_pos before, lineAddresses, List.getElem?_map, List.getElem?_range (small.mpr before)]
    rfl
  · rw [if_neg before, lineAddresses, List.getElem?_map, List.getElem?_eq_none]
    · rfl
    · rw [List.length_range]
      exact Nat.not_lt.mp (mt small.mp before)

theorem lt_of_mem_lineAddresses
    {start finish address : Int} (member : address ∈ lineAddresses start finish) :
    start ≤ address ∧ address < finish := by
  obtain ⟨place, found⟩ := List.mem_iff_getElem?.mp member
  rw [getElem?_lineAddresses] at found
  split at found
  next before =>
    cases found
    omega
  next => cases found

theorem covers_lineAt_iff {place address : Int} :
    (memory.lineAt jumpsByX place).Covers address ↔ address = place ∨ address = place + 1 :=
  Iff.rfl

/-- A byte before the first line is shown by no line. -/
theorem countP_covers_of_lt
    (memory : Memory) (jumpsByX : Bool) {start finish address : Int} (before : address < start) :
    ((lineAddresses start finish).map (memory.lineAt jumpsByX)).countP
      (fun line => decide (line.Covers address)) = 0 := by
  rw [List.countP_eq_zero]
  intro line member covers
  obtain ⟨place, listed, rfl⟩ := List.mem_map.mp member
  obtain ⟨behind, _⟩ := lt_of_mem_lineAddresses listed
  rcases covers_lineAt_iff.mp (of_decide_eq_true covers) with rfl | rfl <;> omega

/-- A byte between the first line and the end is shown by one line and no other. -/
theorem countP_covers
    (memory : Memory) (jumpsByX : Bool) {start finish address : Int}
    (behind : start ≤ address) (before : address < finish) :
    ((lineAddresses start finish).map (memory.lineAt jumpsByX)).countP
      (fun line => decide (line.Covers address)) = 1 := by
  induction start using Memory.listFrom.induct finish with
  | case1 start inside inductionHypothesis =>
      rw [lineAddresses_of_lt inside, List.map_cons, List.countP_cons]
      by_cases first : (memory.lineAt jumpsByX start).Covers address
      · -- the lines behind the first one begin behind its second byte
        have near : address < start + 2 := by
          rcases covers_lineAt_iff.mp first with rfl | rfl <;> omega
        rw [countP_covers_of_lt memory jumpsByX near, decide_eq_true first]
        rfl
      · have far : start + 2 ≤ address := by
          rw [covers_lineAt_iff] at first
          omega
        rw [inductionHypothesis far, decide_eq_false first]
        rfl
  | case2 start beyond => omega

/-- The lines of a range from `start` on. -/
structure ListsRange
    (memory : Memory) (start length : Int) (jumpsByX : Bool) (lines : List ListingLine) :
    Prop where
  /-- They stand at `start`, `start + 2` and so on, as long as this is below the end. -/
  placed : ∀ place : Nat, lines[place]?.map ListingLine.address =
    if start + 2 * place < min (start + length) 0xFFF then some (start + 2 * place) else none
  /-- Each shows the bytes of two cells that there are. -/
  shown : ∀ line ∈ lines, ∃ high low,
    memory.ram.read line.address = .ok high ∧ memory.ram.read (line.address + 1) = .ok low ∧
      line.bytes = Text.HexLayout.byteText high ++ " " ++ Text.HexLayout.byteText low ∧
      line.text = ListingLine.textOf (Word.ofBytes high low) jumpsByX
  inside : ∀ line ∈ lines, start ≤ line.address ∧ line.address + 1 ≤ 0xFFF
  once : ∀ address, start ≤ address → address < min (start + length) 0xFFF →
    lines.countP (fun line => decide (line.Covers address)) = 1
  last : ∀ line ∈ lines, line.Covers 0xFFF → line.address = 0xFFE

theorem listsRange (memory : Memory) (nonneg : 0 ≤ start) (length : Int) (jumpsByX : Bool) :
    memory.ListsRange start length jumpsByX
      ((lineAddresses start (listingEnd start length)).map (memory.lineAt jumpsByX)) := by
  have finish : listingEnd start length = min (start + length) 0xFFF := rfl
  have room : ((Length.number cellCount).count : Int) = 0x1000 := rfl
  rw [finish]
  constructor
  case placed =>
    intro place
    rw [List.getElem?_map, getElem?_lineAddresses]
    split <;> rfl
  case shown =>
    intro line member
    obtain ⟨address, listed, rfl⟩ := List.mem_map.mp member
    obtain ⟨behind, before⟩ := lt_of_mem_lineAddresses listed
    have high := memory.ram.read_eq_ok (Int.le_trans nonneg behind) (by omega)
    have low := memory.ram.read_eq_ok (by omega : 0 ≤ address + 1) (by omega)
    exact ⟨_, _, high, low, rfl, rfl⟩
  case inside =>
    intro line member
    obtain ⟨address, listed, rfl⟩ := List.mem_map.mp member
    obtain ⟨behind, before⟩ := lt_of_mem_lineAddresses listed
    change start ≤ address ∧ address + 1 ≤ 0xFFF
    omega
  case once =>
    intro address behind before
    exact countP_covers memory jumpsByX behind before
  case last =>
    intro line member covers
    obtain ⟨address, listed, rfl⟩ := List.mem_map.mp member
    obtain ⟨_, before⟩ := lt_of_mem_lineAddresses listed
    change address = 0xFFE
    rw [covers_lineAt_iff] at covers
    omega

/-- A listing that would begin before the memory fails at its first byte. -/
theorem disassemble_of_neg
    (memory : Memory) (negative : start < 0) (length : Int) (jumpsByX : Bool) :
    memory.disassemble start length jumpsByX =
      if 0 < length then .error (.ramAddress start (.number cellCount)) else .ok [] := by
  have more : start < listingEnd start length ↔ 0 < length := by
    simp only [listingEnd, cellCount]
    omega
  have refused : memory.ram.read start = .error (.ramAddress start (.number cellCount)) :=
    dif_neg fun inside => Int.not_le.mpr negative inside.1
  rw [disassemble, listFrom]
  by_cases positive : 0 < length
  · rw [if_pos (more.mpr positive), if_pos positive, ListingLine.ofAddress, refused]
    rfl
  · rw [if_neg (mt more.mp positive), if_neg positive]
    rfl

/-- What a memory gives for a range, wherever it begins and however long it is. -/
structure RangeLaw (memory : Memory) (jumpsByX : Bool) : Prop where
  listed : ∀ start length, 0 ≤ start → ∃ lines,
    memory.disassemble start length jumpsByX = .ok lines ∧
      memory.ListsRange start length jumpsByX lines
  refused : ∀ start length, start < 0 → 0 < length → ∃ fault,
    memory.disassemble start length jumpsByX = .error fault ∧ fault.kind = .index
  nothing : ∀ start length, start < 0 → length ≤ 0 →
    memory.disassemble start length jumpsByX = .ok []

theorem rangeLaw (memory : Memory) (jumpsByX : Bool) : memory.RangeLaw jumpsByX where
  listed _ length nonneg :=
    ⟨_, memory.disassemble_eq nonneg length jumpsByX, memory.listsRange nonneg length jumpsByX⟩
  refused start length negative positive := by
    rw [disassemble_of_neg memory negative, if_pos positive]
    exact ⟨_, rfl, rfl⟩
  nothing start length negative short := by
    rw [disassemble_of_neg memory negative, if_neg (Int.not_lt.mpr short)]

/-- From an odd address on the last cell is never reached, from an even one it is. -/
example :
    (lineAddresses 0xFFB 0xFFF, lineAddresses 0xFFC 0xFFF) = ([0xFFB, 0xFFD], [0xFFC, 0xFFE]) := by
  decide

end Memory

end Chip8
