import Chip8.Instruction
import Chip8.Memory
/-!
Listings of memory.  Every line shows one word; a word that is no instruction
is shown as data, because programs and data lie side by side.
-/

namespace Chip8

/-- A line of a listing. -/
structure ListingLine where
  address : Int
  bytes : String
  text : String
  deriving DecidableEq, Repr

namespace ListingLine

def textOf (word : Int) (jumpsByX : Bool) : String :=
  match Instruction.decode word with
  | .ok instruction => (instruction.operation jumpsByX).text
  | .error _ => "DW 0x" ++ Text.HexLayout.word.render word

theorem textOf_of_decode
    {word : Int} {instruction : Instruction} (decoded : Instruction.decode word = .ok instruction)
    (jumpsByX : Bool) : textOf word jumpsByX = (instruction.operation jumpsByX).text := by
  rw [textOf, decoded]

theorem textOf_of_undecoded
    {word : Int} {fault : Fault} (undecoded : Instruction.decode word = .error fault)
    (jumpsByX : Bool) : textOf word jumpsByX = "DW 0x" ++ Text.HexLayout.word.render word := by
  rw [textOf, undecoded]

def ofAddress (memory : Memory) (jumpsByX : Bool) (address : Int) :
    Except Fault ListingLine := do
  let high ← memory.ram.read address
  let low ← memory.ram.read (address + 1)
  let bytes := Text.HexLayout.byte.render high.toNat ++ " " ++
    Text.HexLayout.byte.render low.toNat
  return ⟨address, bytes, textOf (Word.ofBytes high low) jumpsByX⟩

end ListingLine

namespace Memory

/-- The end of a listing, which never starts a word at the last cell. -/
def listingEnd (start length : Int) : Int :=
  min (start + length) (cellCount - 1)

/-- The lines of the words at `address`, `address + 2`, ... below `finish`. -/
def listFrom (memory : Memory) (jumpsByX : Bool) (finish address : Int) :
    Except Fault (List ListingLine) :=
  if address < finish then do
    let line ← ListingLine.ofAddress memory jumpsByX address
    let rest ← memory.listFrom jumpsByX finish (address + 2)
    return line :: rest
  else
    return []
termination_by (finish - address).toNat
decreasing_by omega

/-- The lines from `start` on that begin before the end. -/
def disassemble (memory : Memory) (start length : Int) (jumpsByX : Bool) :
    Except Fault (List ListingLine) :=
  memory.listFrom jumpsByX (listingEnd start length) start

end Memory

end Chip8
