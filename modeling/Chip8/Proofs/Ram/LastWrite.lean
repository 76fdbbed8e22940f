import Chip8.Proofs.Cycle.Count
import Chip8.Proofs.Memory.Window
import Mathlib
/-!
A device remembers what was put last.  After any calls, some of which may have
failed, an address holds the byte that was put there last since the device was
cleared, and zero if there is none.  A call that fails changes nothing, and
which fault it has depends on the call alone.
-/

namespace Chip8

/-- A number that is a byte. -/
def Word.IsByte (value : Int) : Prop :=
  0 ≤ value ∧ value ≤ 0xFF

instance (value : Int) : Decidable (Word.IsByte value) :=
  inferInstanceAs (Decidable (_ ∧ _))

theorem Word.toNat_lowByte_of_isByte {value : Int} (byte : IsByte value) :
    ((lowByte value).toNat : Int) = value := by
  obtain ⟨nonneg, small⟩ := byte
  rw [toNat_lowByte]
  omega

theorem Word.byte?_of_isByte {value : Int} (byte : IsByte value) :
    byte? value = some (lowByte value) :=
  if_pos byte

theorem Word.byte?_of_not_isByte {value : Int} (larger : ¬ IsByte value) : byte? value = none :=
  if_neg larger

theorem bytesOfBlock?_of_isByte {block : List Int} (bytes : ∀ data ∈ block, Word.IsByte data) :
    bytesOfBlock? block = .ok (block.map Word.lowByte) := by
  have read : block.mapM Word.byte? = some (block.map Word.lowByte) := by
    induction block with
    | nil => rfl
    | cons data rest inductionHypothesis =>
        obtain ⟨first, others⟩ := List.forall_mem_cons.mp bytes
        simp only [List.mapM_cons, Word.byte?_of_isByte first, inductionHypothesis others]
        rfl
  rw [bytesOfBlock?, read]

theorem bytesOfBlock?_of_not_isByte
    {block : List Int} (larger : ¬ ∀ data ∈ block, Word.IsByte data) :
    bytesOfBlock? block = .error .blockData := by
  have unread : block.mapM Word.byte? = none := by
    induction block with
    | nil => exact absurd (List.forall_mem_nil _) larger
    | cons data rest inductionHypothesis =>
        by_cases first : Word.IsByte data
        · have others : ¬ ∀ data ∈ rest, Word.IsByte data := fun bytes =>
            larger (List.forall_mem_cons.mpr ⟨first, bytes⟩)
          simp only [List.mapM_cons, Word.byte?_of_isByte first, inductionHypothesis others]
          rfl
        · simp only [List.mapM_cons, Word.byte?_of_not_isByte first]
          rfl
  rw [bytesOfBlock?, unread]

namespace Ram

/-- A call that may change a device. -/
inductive Call where
  | write (address data : Int)
  | writeBlock (address : Int) (block : List Int)
  | clear
  deriving DecidableEq, Repr

namespace Call

def isClear : Call → Bool
  | clear => true
  | write .. | writeBlock .. => false

/-- The number that a call puts at an address, if it puts one there. -/
def number? (address : Int) : Call → Option Int
  | write place data => if address = place then some data else none
  | writeBlock start block =>
      if start ≤ address then block[(address - start).toNat]? else none
  | clear => none

/-- The cells that a call is about exist, and all its numbers are bytes. -/
def Fits (size : Length) : Call → Prop
  | write address data => (0 ≤ address ∧ address < size.count) ∧ Word.IsByte data
  | writeBlock address block =>
      (0 ≤ address ∧ address + block.length ≤ size.count) ∧ ∀ data ∈ block, Word.IsByte data
  | clear => True

instance (size : Length) (call : Call) : Decidable (call.Fits size) :=
  match call with
  | write .. => inferInstanceAs (Decidable (_ ∧ _))
  | writeBlock .. => inferInstanceAs (Decidable (_ ∧ _))
  | clear => .isTrue trivial

/-- The fault of a call that does not fit. -/
def fault? (size : Length) : Call → Option Fault
  | write address data =>
      if 0 ≤ address ∧ address < size.count then
        if Word.IsByte data then none else some (.ramData data)
      else some (.ramAddress address size)
  | writeBlock address block =>
      if ∀ data ∈ block, Word.IsByte data then
        if 0 ≤ address ∧ address + block.length ≤ size.count then none
        else some (.ramAddress address size)
      else some .blockData
  | clear => none

theorem fault?_eq_none_iff {size : Length} {call : Call} :
    call.fault? size = none ↔ call.Fits size := by
  cases call with
  | write address data =>
      by_cases inside : 0 ≤ address ∧ address < size.count <;> simp [fault?, Fits, inside]
  | writeBlock address block =>
      by_cases bytes : ∀ data ∈ block, Word.IsByte data
      · rw [fault?, if_pos bytes, Fits, and_iff_left bytes]
        simp
      · simp [fault?, Fits, bytes]
  | clear => simp [fault?, Fits]

end Call

variable {size : Length}

/-- What a device answers to a call. -/
def called (ram : Ram size) : Call → Except Fault (Ram size)
  | .write address data => ram.write address data
  | .writeBlock address block => ram.writeBlock address block
  | .clear => .ok blank

/-- The device after a call; one that fails leaves the device as it was. -/
def after (ram : Ram size) (call : Call) : Ram size :=
  match ram.called call with
  | .ok next => next
  | .error _ => ram

def run (ram : Ram size) (calls : List Call) : Ram size :=
  calls.foldl after ram

/-- The number put last at an address by a call that fitted, since the last clear. -/
def lastPut (size : Length) (calls : List Call) (address : Int) : Int :=
  (((sinceLast Call.isClear calls).filter (·.Fits size)).reverse.findSome?
    (·.number? address)).getD 0

/-- The device with the numbers of a call in it. -/
def put (ram : Ram size) : Call → Ram size
  | .write address data => ram.overwriteAt address [Word.lowByte data]
  | .writeBlock address block => ram.overwriteAt address (block.map Word.lowByte)
  | .clear => blank

theorem called_eq (ram : Ram size) (call : Call) :
    ram.called call =
      match call.fault? size with
      | some fault => .error fault
      | none => .ok (ram.put call) := by
  cases call with
  | write address data =>
      have range : InRange size address 1 ↔ 0 ≤ address ∧ address < size.count := Iff.rfl
      simp only [called, write, range, Call.fault?]
      by_cases inside : 0 ≤ address ∧ address < size.count
      · rw [if_pos inside, if_pos inside]
        by_cases byte : Word.IsByte data
        · rw [Word.byte?_of_isByte byte, if_pos byte]
          rfl
        · rw [Word.byte?_of_not_isByte byte, if_neg byte]
      · rw [if_neg inside, if_neg inside]
  | writeBlock address block =>
      simp only [called, writeBlock, Call.fault?]
      by_cases bytes : ∀ data ∈ block, Word.IsByte data
      · rw [if_pos bytes, bytesOfBlock?_of_isByte bytes]
        simp only [writeBytes, InRange, bind, Except.bind, List.length_map]
        split <;> rfl
      · rw [if_neg bytes, bytesOfBlock?_of_not_isByte bytes]
        rfl
  | clear => rfl

theorem after_of_fits {call : Call} (fits : call.Fits size) (ram : Ram size) :
    ram.after call = ram.put call := by
  rw [after, called_eq, Call.fault?_eq_none_iff.mpr fits]

theorem after_of_not_fits {call : Call} (refused : ¬ call.Fits size) (ram : Ram size) :
    ram.after call = ram := by
  obtain ⟨fault, raised⟩ := Option.ne_none_iff_exists'.mp (mt Call.fault?_eq_none_iff.mp refused)
  rw [after, called_eq, raised]

theorem run_append (ram : Ram size) (calls : List Call) (call : Call) :
    ram.run (calls ++ [call]) = (ram.run calls).after call :=
  List.foldl_concat after ram call calls

/-- What an address holds after a row of numbers has been put over the cells. -/
theorem toNat_byteAt_overwriteAt
    (ram : Ram size) {start address : Int} {block : List Int}
    (startNonneg : 0 ≤ start) (inside : start + block.length ≤ size.count)
    (bytes : ∀ data ∈ block, Word.IsByte data) (nonneg : 0 ≤ address) :
    (((ram.overwriteAt start (block.map Word.lowByte)).byteAt address).toNat : Int) =
      ((Call.writeBlock start block).number? address).getD (ram.byteAt address).toNat := by
  have room : start + (block.map Word.lowByte).length ≤ size.count := by
    rw [List.length_map]
    exact inside
  rw [ram.byteAt_overwriteAt startNonneg room nonneg, List.length_map, Call.number?]
  by_cases behind : start ≤ address
  · by_cases covered : address < start + block.length
    · have place : (address - start).toNat < block.length := by omega
      have byte := bytes _ (List.getElem_mem place)
      rw [if_pos ⟨behind, covered⟩, if_pos behind, List.getD_eq_getElem?_getD, List.getElem?_map,
        List.getElem?_eq_getElem place]
      exact Word.toNat_lowByte_of_isByte byte
    · have place : block.length ≤ (address - start).toNat := by omega
      rw [if_neg (fun inside => covered inside.2), if_pos behind, List.getElem?_eq_none place]
      rfl
  · rw [if_neg (fun inside => behind inside.1), if_neg behind]
    rfl

/-- A write is a block of one number. -/
theorem number?_write (place data address : Int) :
    (Call.write place data).number? address = (Call.writeBlock place [data]).number? address := by
  simp only [Call.number?]
  by_cases same : address = place
  · simp [same]
  · rw [if_neg same]
    split
    · have beyond : [data].length ≤ (address - place).toNat := by
        rw [List.length_singleton]
        omega
      exact (List.getElem?_eq_none beyond).symm
    · rfl

/-- What an address holds after a call that is no clear. -/
theorem byteAt_put
    (ram : Ram size) {call : Call} (fits : call.Fits size) (kept : call.isClear = false)
    {address : Int} (nonneg : 0 ≤ address) :
    (((ram.put call).byteAt address).toNat : Int) =
      (call.number? address).getD (ram.byteAt address).toNat := by
  cases call with
  | write place data =>
      obtain ⟨⟨placeNonneg, inside⟩, byte⟩ := fits
      have room : place + ([data].length : Int) ≤ size.count := by
        rw [List.length_singleton]
        omega
      have bytes : ∀ number ∈ [data], Word.IsByte number := List.forall_mem_singleton.mpr byte
      rw [number?_write, ← ram.toNat_byteAt_overwriteAt placeNonneg room bytes nonneg, put,
        List.map_singleton]
  | writeBlock start block =>
      obtain ⟨⟨startNonneg, inside⟩, bytes⟩ := fits
      exact ram.toNat_byteAt_overwriteAt startNonneg inside bytes nonneg
  | clear => cases kept

/-- One more call makes its own numbers the last ones, or all of them zero. -/
theorem lastPut_append (calls : List Call) (call : Call) (address : Int) :
    lastPut size (calls ++ [call]) address =
      if call.isClear then 0
      else if call.Fits size then (call.number? address).getD (lastPut size calls address)
      else lastPut size calls address := by
  cases cleared : call.isClear with
  | true => simp [lastPut, sinceLast, cleared]
  | false =>
      by_cases fits : call.Fits size
      · cases number : call.number? address <;>
          simp [lastPut, sinceLast, cleared, fits, number]
      · simp [lastPut, sinceLast, cleared, fits]

/-- Every address holds what was put there last. -/
theorem byteAt_run (calls : List Call) {address : Int} (nonneg : 0 ≤ address) :
    ((((blank : Ram size).run calls).byteAt address).toNat : Int) = lastPut size calls address := by
  induction calls using List.reverseRecOn with
  | nil =>
      have zero : ((blank : Ram size).byteAt address).toNat = 0 := by
        rw [byteAt_blank]
        rfl
      exact congrArg Nat.cast zero
  | append_singleton calls call inductionHypothesis =>
      rw [run_append, lastPut_append]
      by_cases fits : call.Fits size
      · rw [after_of_fits fits]
        cases cleared : call.isClear with
        | true =>
            cases call with
            | clear =>
                simp only [put, byteAt_blank]
                rfl
            | write | writeBlock => cases cleared
        | false =>
            rw [byteAt_put _ fits cleared nonneg, inductionHypothesis]
            simp [fits]
      · have kept : call.isClear = false := by
          cases call with
          | clear => exact absurd trivial fits
          | write | writeBlock => rfl
        rw [after_of_not_fits fits, inductionHypothesis, kept, if_neg fits]
        rfl

/-- A call raises a fault of a kind. -/
def Raises (ram : Ram size) (call : Call) (kind : FaultKind) : Prop :=
  ∃ fault, ram.called call = .error fault ∧ fault.kind = kind

theorem raises_iff {ram : Ram size} {call : Call} {kind : FaultKind} :
    ram.Raises call kind ↔ ∃ fault, call.fault? size = some fault ∧ fault.kind = kind := by
  rw [Raises, called_eq]
  cases call.fault? size with
  | none => simp
  | some fault => simp

/-- Of a single number the address is checked first. -/
theorem raises_write_iff {ram : Ram size} {address data : Int} {kind : FaultKind} :
    ram.Raises (.write address data) kind ↔
      (kind = .index ∧ ¬ (0 ≤ address ∧ address < size.count)) ∨
      (kind = .value ∧ (0 ≤ address ∧ address < size.count) ∧ ¬ Word.IsByte data) := by
  rw [raises_iff, Call.fault?]
  by_cases inside : 0 ≤ address ∧ address < size.count
  · by_cases byte : Word.IsByte data <;> simp [inside, byte, Fault.kind, eq_comm]
  · simp [inside, Fault.kind, eq_comm]

/-- Of a block the numbers are checked first. -/
theorem raises_writeBlock_iff
    {ram : Ram size} {address : Int} {block : List Int} {kind : FaultKind} :
    ram.Raises (.writeBlock address block) kind ↔
      (kind = .value ∧ ¬ ∀ data ∈ block, Word.IsByte data) ∨
      (kind = .index ∧ (∀ data ∈ block, Word.IsByte data) ∧
        ¬ (0 ≤ address ∧ address + block.length ≤ size.count)) := by
  rw [raises_iff, Call.fault?]
  by_cases bytes : ∀ data ∈ block, Word.IsByte data
  · rw [if_pos bytes, iff_true_intro bytes]
    by_cases inside : 0 ≤ address ∧ address + block.length ≤ size.count <;>
      simp [inside, Fault.kind, eq_comm]
  · rw [if_neg bytes, iff_false_intro bytes]
    simp [Fault.kind, eq_comm]

theorem not_raises_clear (ram : Ram size) (kind : FaultKind) : ¬ ram.Raises .clear kind := by
  rw [raises_iff]
  rintro ⟨fault, raised, _⟩
  cases raised

/-- What a device is after some calls on a new one, and how it answers to the next. -/
structure HistoryLaw (size : Length) (calls : List Call) (ram : Ram size) : Prop where
  cells : ram.cells.toList.length = size.count ∧ ∀ cell ∈ ram.cells.toList, cell.toNat ≤ 0xFF
  /-- A cell holds what was put there last. -/
  read : ∀ address : Int, 0 ≤ address → address < size.count → ∃ byte,
    ram.read address = .ok byte ∧ (byte.toNat : Int) = lastPut size calls address
  readOutside : ∀ address : Int, ¬ (0 ≤ address ∧ address < size.count) →
    ∃ fault, ram.read address = .error fault ∧ fault.kind = .index
  /-- A block inside the device is made of the bytes that are read one by one. -/
  readBlock : ∀ address length : Int, 0 ≤ length → 0 ≤ address → address + length ≤ size.count →
    ∃ bytes, ram.readBlock address length = .ok bytes ∧ (bytes.length : Int) = length ∧
      ∀ (place : Nat) (byte : UInt8), bytes[place]? = some byte →
        ram.read (address + place) = .ok byte
  readBlockOutside : ∀ address length : Int, 0 ≤ length →
    ¬ (0 ≤ address ∧ address + length ≤ size.count) →
    ∃ fault, ram.readBlock address length = .error fault ∧ fault.kind = .index
  unchanged : ∀ call fault, ram.called call = .error fault → ram.after call = ram
  accepted : ∀ call, (∃ next, ram.called call = .ok next) ↔ call.Fits size
  write : ∀ address data kind, ram.Raises (.write address data) kind ↔
    (kind = .index ∧ ¬ (0 ≤ address ∧ address < size.count)) ∨
    (kind = .value ∧ (0 ≤ address ∧ address < size.count) ∧ ¬ Word.IsByte data)
  writeBlock : ∀ address block kind, ram.Raises (.writeBlock address block) kind ↔
    (kind = .value ∧ ¬ ∀ data ∈ block, Word.IsByte data) ∨
    (kind = .index ∧ (∀ data ∈ block, Word.IsByte data) ∧
      ¬ (0 ≤ address ∧ address + block.length ≤ size.count))
  clear : ∀ kind, ¬ ram.Raises .clear kind

theorem historyLaw (size : Length) (calls : List Call) :
    HistoryLaw size calls ((blank : Ram size).run calls) := by
  constructor
  case cells =>
    refine ⟨by simp, fun cell _ => ?_⟩
    exact Nat.le_of_lt_succ cell.toNat_lt
  case read =>
    intro address nonneg inside
    exact ⟨_, read_eq_ok _ nonneg inside, byteAt_run calls nonneg⟩
  case readOutside =>
    intro address outside
    exact ⟨_, dif_neg outside, rfl⟩
  case readBlock =>
    intro address length lengthNonneg nonneg inside
    obtain ⟨count, rfl⟩ := Int.eq_ofNat_of_zero_le lengthNonneg
    refine ⟨_, readBlock_eq_ok _ nonneg inside, by simp, ?_⟩
    intro place byte found
    obtain ⟨bound, rfl⟩ := List.getElem?_eq_some_iff.mp found
    have small : place < count := by simpa using bound
    simp only [List.getElem_map, List.getElem_range]
    exact read_eq_ok _ (by omega) (by omega)
  case readBlockOutside =>
    intro address length _ outside
    exact ⟨_, if_neg outside, rfl⟩
  case unchanged =>
    intro call fault raised
    rw [after, raised]
  case accepted =>
    intro call
    rw [called_eq, ← Call.fault?_eq_none_iff]
    cases call.fault? size <;> simp
  case write => exact fun _ _ _ => raises_write_iff
  case writeBlock => exact fun _ _ _ => raises_writeBlock_iff
  case clear => exact not_raises_clear _

/-- A block over the end of an earlier one, after two calls that change nothing. -/
example :
    let calls := [.writeBlock 1 [1, 2, 3], .write 4 256, .writeBlock 3 [4, 5], .writeBlock 2 [6]]
    ((blank : Ram (.number 4)).run calls).cells.toList = [0, 1, 6, 3] ∧
      [0, 1, 2, 3].map (lastPut (.number 4) calls) = [0, 1, 6, 3] := by
  decide

end Ram

end Chip8
