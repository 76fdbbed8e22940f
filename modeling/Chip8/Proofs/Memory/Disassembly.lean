import Chip8.Proofs.Instruction.Assembly
import Chip8.Proofs.Machine.Listing
import Mathlib
/-!
Nothing is lost in a listing.  The text of a word can be read back, so two words
never have the same text, and memories with the same texts hold the same bytes
wherever a line has been written.
-/

namespace Chip8

open Text (HexLayout)

theorem Word.ofBytes_inj
    {high low otherHigh otherLow : UInt8} (same : ofBytes high low = ofBytes otherHigh otherLow) :
    high = otherHigh ∧ low = otherLow := by
  have small := low.toNat_lt
  have otherSmall := otherLow.toNat_lt
  unfold ofBytes at same
  constructor
  · apply UInt8.toNat_inj.mp
    omega
  · apply UInt8.toNat_inj.mp
    omega

/-- Different words have different texts. -/
theorem ListingLine.eq_of_textOf_eq
    {left right : Int} {jumpsByX : Bool}
    (leftNonneg : 0 ≤ left) (leftSmall : left < 0x10000)
    (rightNonneg : 0 ≤ right) (rightSmall : right < 0x10000)
    (same : textOf left jumpsByX = textOf right jumpsByX) : left = right := by
  have read := Assembly.assemble?_textOf leftNonneg leftSmall jumpsByX
  rw [same, Assembly.assemble?_textOf rightNonneg rightSmall jumpsByX] at read
  exact (Option.some.inj read).symm

namespace Memory

/-- The addresses of the lines from an address on that begin before an end. -/
def lineAddresses (address finish : Int) : List Int :=
  (List.range ((finish - address + 1) / 2).toNat).map fun place : Nat => address + 2 * (place : Int)

theorem lineAddresses_of_le {address finish : Int} (beyond : finish ≤ address) :
    lineAddresses address finish = [] := by
  have none : ((finish - address + 1) / 2).toNat = 0 := by omega
  rw [lineAddresses, none]
  rfl

theorem lineAddresses_of_lt {address finish : Int} (before : address < finish) :
    lineAddresses address finish = address :: lineAddresses (address + 2) finish := by
  have more : ((finish - address + 1) / 2).toNat =
      ((finish - (address + 2) + 1) / 2).toNat + 1 := by
    omega
  rw [lineAddresses, more, List.range_succ_eq_map, List.map_cons, List.map_map, lineAddresses]
  congr 1
  · omega
  · apply List.map_congr_left
    intro place _
    simp only [Function.comp_apply, Nat.succ_eq_add_one]
    omega

theorem listFrom_eq
    (memory : Memory) (jumpsByX : Bool) {finish address : Int} (inside : finish < cellCount)
    (nonneg : 0 ≤ address) :
    memory.listFrom jumpsByX finish address =
      .ok ((lineAddresses address finish).map (memory.lineAt jumpsByX)) := by
  induction address using Memory.listFrom.induct finish with
  | case1 address before inductionHypothesis =>
      have line := memory.ofAddress_eq_ok jumpsByX nonneg (by omega)
      have rest := inductionHypothesis (by omega)
      rw [listFrom, if_pos before, line, rest, lineAddresses_of_lt before]
      rfl
  | case2 address beyond =>
      rw [listFrom, if_neg beyond, lineAddresses_of_le (Int.not_lt.mp beyond)]
      rfl

/-- A listing has a line at every second address, and cannot fail. -/
theorem disassemble_eq
    (memory : Memory) {start : Int} (nonneg : 0 ≤ start) (length : Int) (jumpsByX : Bool) :
    memory.disassemble start length jumpsByX =
      .ok ((lineAddresses start (listingEnd start length)).map (memory.lineAt jumpsByX)) := by
  have inside : listingEnd start length < cellCount := by
    rw [listingEnd]
    omega
  exact memory.listFrom_eq jumpsByX inside nonneg

/-- The bytes of an address are shown in one of some lines. -/
def Covered (lines : List ListingLine) (address : Int) : Prop :=
  ∃ line ∈ lines, address = line.address ∨ address = line.address + 1

/-- What the text of a word and the texts of a listing tell about the words. -/
structure DisassemblyLaw (jumpsByX : Bool) : Prop where
  operation : ∀ (word : Int) (instruction : Instruction),
    Instruction.decode word = .ok instruction →
    ListingLine.textOf word jumpsByX = (instruction.operation jumpsByX).text
  /-- A word that is no instruction has the text of data. -/
  data : ∀ (word : Int) (fault : Fault), Instruction.decode word = .error fault →
    ListingLine.textOf word jumpsByX = "DW 0x" ++ HexLayout.word.render word
  assembled : ∀ word : Int, 0 ≤ word → word < 0x10000 →
    Assembly.assemble? jumpsByX (ListingLine.textOf word jumpsByX) = some word
  distinct : ∀ left right : Int, 0 ≤ left → left < 0x10000 → 0 ≤ right → right < 0x10000 →
    ListingLine.textOf left jumpsByX = ListingLine.textOf right jumpsByX → left = right
  listed : ∀ (memory : Memory) (start length : Int), 0 ≤ start →
    memory.disassemble start length jumpsByX =
      .ok ((lineAddresses start (listingEnd start length)).map (memory.lineAt jumpsByX))
  /-- Memories with the same texts agree on all that is listed. -/
  lossless : ∀ (left right : Memory) (start length : Int)
    (leftLines rightLines : List ListingLine), 0 ≤ start →
    left.disassemble start length jumpsByX = .ok leftLines →
    right.disassemble start length jumpsByX = .ok rightLines →
    leftLines.map ListingLine.text = rightLines.map ListingLine.text →
    ∀ address, Covered leftLines address → left.byteAt address = right.byteAt address

theorem disassemblyLaw (jumpsByX : Bool) : DisassemblyLaw jumpsByX := by
  constructor
  case operation =>
    intro word instruction decoded
    exact ListingLine.textOf_of_decode decoded jumpsByX
  case data =>
    intro word fault undecoded
    exact ListingLine.textOf_of_undecoded undecoded jumpsByX
  case assembled => exact fun word nonneg small => Assembly.assemble?_textOf nonneg small jumpsByX
  case distinct =>
    intro left right leftNonneg leftSmall rightNonneg rightSmall same
    exact ListingLine.eq_of_textOf_eq leftNonneg leftSmall rightNonneg rightSmall same
  case listed =>
    intro memory start length nonneg
    exact memory.disassemble_eq nonneg length jumpsByX
  case lossless =>
    intro left right start length leftLines rightLines nonneg leftListed rightListed same
    rw [left.disassemble_eq nonneg length jumpsByX] at leftListed
    rw [right.disassemble_eq nonneg length jumpsByX] at rightListed
    cases leftListed
    cases rightListed
    rw [List.map_map, List.map_map, List.map_inj_left] at same
    rintro address ⟨line, listed, covered⟩
    obtain ⟨place, member, rfl⟩ := List.mem_map.mp listed
    obtain ⟨leftNonneg, leftSmall⟩ :=
      Word.ofBytes_mem_range (left.byteAt place) (left.byteAt (place + 1))
    obtain ⟨rightNonneg, rightSmall⟩ :=
      Word.ofBytes_mem_range (right.byteAt place) (right.byteAt (place + 1))
    obtain ⟨high, low⟩ := Word.ofBytes_inj
      (ListingLine.eq_of_textOf_eq leftNonneg leftSmall rightNonneg rightSmall (same place member))
    rcases covered with rfl | rfl
    · exact high
    · exact low

end Memory

end Chip8
