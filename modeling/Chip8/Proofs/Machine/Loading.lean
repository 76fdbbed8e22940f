import Chip8.Proofs.Machine.Cycle
import Chip8.Proofs.Machine.Run
import Mathlib
/-!
Loading a program and fetching it.  A program is put in memory as a whole or
refused as a whole, and it must be shorter than the part between its start and
the reserved part.  What has been loaded as big-endian words is fetched again
word by word.
-/

namespace Chip8

/-- The two bytes of a word, the high one first. -/
def Word.bigEndian (word : UInt16) : List UInt8 :=
  [(word >>> 8).toUInt8, word.toUInt8]

theorem Word.ofBytes_bigEndian (word : UInt16) :
    ofBytes (word >>> 8).toUInt8 word.toUInt8 = word.toNat := by
  have small := word.toNat_lt
  have high : (word >>> 8).toUInt8.toNat = word.toNat / 256 := by
    rw [UInt16.toNat_toUInt8, UInt16.toNat_shiftRight]
    have shift : word.toNat >>> ((8 : UInt16).toNat % 16) = word.toNat / 256 :=
      Nat.shiftRight_eq_div_pow word.toNat 8
    rw [shift]
    omega
  have low : word.toUInt8.toNat = word.toNat % 256 := UInt16.toNat_toUInt8 word
  rw [ofBytes, high, low]
  omega

/-- Bytes as the numbers that a host gives. -/
def numbers (bytes : List UInt8) : List Int :=
  bytes.map fun byte => (byte.toNat : Int)

@[simp]
theorem length_numbers (bytes : List UInt8) : (numbers bytes).length = bytes.length :=
  List.length_map _

theorem bytesOfBlock?_numbers (bytes : List UInt8) : bytesOfBlock? (numbers bytes) = .ok bytes := by
  have read : (numbers bytes).mapM Word.byte? = some bytes := by
    induction bytes with
    | nil => rfl
    | cons byte rest inductionHypothesis =>
        have first : Word.byte? (byte.toNat : Int) = some byte := Word.byte?_eq_some_iff.mpr rfl
        rw [numbers] at inductionHypothesis ⊢
        simp only [List.map_cons, List.mapM_cons, first, inductionHypothesis]
        rfl
  rw [bytesOfBlock?, read]

namespace Memory

/-- The bytes of a program that is given by its words. -/
def image (words : List UInt16) : List UInt8 :=
  words.flatMap Word.bigEndian

theorem length_image (words : List UInt16) : (image words).length = 2 * words.length := by
  simp [image, Word.bigEndian, Nat.mul_comm]

/-- The two bytes at an even place of an image are those of the word at half of it. -/
theorem ofBytes_image {words : List UInt16} {place : Nat} (inside : place < words.length) :
    Word.ofBytes ((image words).getD (2 * place) 0) ((image words).getD (2 * place + 1) 0) =
      words[place].toNat := by
  induction words generalizing place with
  | nil => cases inside
  | cons word rest inductionHypothesis =>
      have split : image (word :: rest) =
          (word >>> 8).toUInt8 :: word.toUInt8 :: image rest := rfl
      cases place with
      | zero => exact Word.ofBytes_bigEndian word
      | succ place =>
          rw [split]
          exact inductionHypothesis (Nat.lt_of_succ_lt_succ inside)

/-- The words at the program counter, one after another. -/
def fetchWords : Nat → EStateM Fault Memory (List Int)
  | 0 => return []
  | count + 1 => do
      let word ← fetch
      let rest ← fetchWords count
      return word :: rest

variable {memory : Memory}

theorem fetchWords_eq_ok
    (count : Nat) (nonneg : 0 ≤ memory.programCounter)
    (inside : memory.programCounter + 2 * count ≤ reservedStart) :
    fetchWords count memory =
      .ok ((List.range count).map fun place : Nat =>
          memory.wordAt (memory.programCounter + 2 * place))
        { memory with programCounter := memory.programCounter + 2 * count } := by
  induction count generalizing memory with
  | zero =>
      have unmoved : memory.programCounter + 2 * ((0 : Nat) : Int) = memory.programCounter := by
        omega
      rw [unmoved]
      rfl
  | succ count inductionHypothesis =>
      have room : memory.programCounter + instructionSize ≤ reservedStart := by
        simp only [instructionSize]
        omega
      have moved : memory.advance.programCounter = memory.programCounter + 2 := rfl
      have nonnegNext : 0 ≤ memory.advance.programCounter := by omega
      have insideNext : memory.advance.programCounter + 2 * count ≤ reservedStart := by omega
      have rest := inductionHypothesis nonnegNext insideNext
      have finish : memory.programCounter + 2 + 2 * (count : Int) =
          memory.programCounter + 2 * ((count + 1 : Nat) : Int) := by omega
      have later :
          (fun place : Nat => memory.advance.wordAt (memory.programCounter + 2 + 2 * place)) =
          (fun place : Nat => memory.wordAt (memory.programCounter + 2 * place)) ∘ Nat.succ := by
        funext place
        have address : memory.programCounter + 2 + 2 * (place : Int) =
            memory.programCounter + 2 * (place.succ : Int) := by omega
        rw [Function.comp_apply, address]
        rfl
      rw [moved, later, finish] at rest
      simp only [fetchWords, bind, EStateM.bind, fetch_eq_ok nonneg room, rest]
      simp only [List.range_succ_eq_map, List.map_cons, List.map_map]
      have first : memory.programCounter + 2 * ((0 : Nat) : Int) = memory.programCounter := by
        omega
      rw [first]
      rfl

/-- A fetch is refused in place exactly when the word does not lie below the reserved part. -/
theorem fetch_refused_iff (memory : Memory) :
    (∃ fault after, memory.fetch = .error fault after ∧ fault.kind = .addressRange ∧
      after.programCounter = memory.programCounter) ↔ 0xEA0 < memory.programCounter + 2 := by
  constructor
  · rintro ⟨fault, after, fetched, kind, same⟩
    by_contra inside
    -- a counter that is too low has moved on when its cells are looked for
    have room : ¬ (reservedStart : Int) < memory.programCounter + instructionSize := inside
    unfold fetch at fetched
    rw [if_neg room] at fetched
    split at fetched
    · cases fetched
    · cases fetched
      simp only [advance, instructionSize] at same
      omega
  · intro outside
    exact ⟨_, _, fetch_eq_error outside, rfl, rfl⟩

theorem load_numbers (memory : Memory) (program : List UInt8) :
    memory.load (numbers program) =
      if 3232 ≤ program.length then .error (.programTooLarge program.length 3232)
      else .ok { memory with ram := memory.ram.overwriteAt programStart program } := by
  have capacity : programCapacity = 3232 := rfl
  rw [load, length_numbers, capacity]
  split
  next large => rfl
  next fits =>
    have inside : (programStart : Int) + program.length ≤ (Length.number cellCount).count := by
      simp only [programStart, Length.count_number, cellCount]
      omega
    simp only [Ram.writeBlock, bytesOfBlock?_numbers]
    simp only [bind, Except.bind, memory.ram.writeBytes_eq_ok (Int.natCast_nonneg _) inside]
    rfl

/-- The words of a loaded image stand one after another from the program start on. -/
theorem wordAt_overwriteAt_image
    (memory : Memory) {words : List UInt16} (fits : 2 * words.length < 3232)
    {place : Nat} (inside : place < words.length) :
    ({ memory with ram := memory.ram.overwriteAt programStart (image words) } : Memory).wordAt
      (programStart + 2 * place) = words[place].toNat := by
  have length := length_image words
  have room : (programStart : Int) + (image words).length ≤ (Length.number cellCount).count := by
    simp only [programStart, Length.count_number, cellCount]
    omega
  have first := memory.ram.byteAt_overwriteAt (Int.natCast_nonneg programStart) room
    (show (0 : Int) ≤ programStart + 2 * place by omega)
  have second := memory.ram.byteAt_overwriteAt (Int.natCast_nonneg programStart) room
    (show (0 : Int) ≤ programStart + 2 * place + 1 by omega)
  have firstPlace : ((programStart : Int) + 2 * place - programStart).toNat = 2 * place := by omega
  have secondPlace : ((programStart : Int) + 2 * place + 1 - programStart).toNat =
      2 * place + 1 := by omega
  rw [if_pos (by omega), firstPlace] at first
  rw [if_pos (by omega), secondPlace] at second
  simp only [wordAt, byteAt, first, second]
  exact ofBytes_image inside

theorem fetchWords_image
    (memory : Memory) {words : List UInt16} (fits : 2 * words.length < 3232) :
    fetchWords words.length
        { memory with
          ram := memory.ram.overwriteAt programStart (image words)
          programCounter := programStart } =
      .ok (words.map fun word => (word.toNat : Int))
        { memory with
          ram := memory.ram.overwriteAt programStart (image words)
          programCounter := programStart + 2 * words.length } := by
  have inside : (programStart : Int) + 2 * words.length ≤ reservedStart := by
    simp only [programStart, reservedStart]
    omega
  rw [fetchWords_eq_ok words.length (Int.natCast_nonneg _) inside]
  congr 1
  apply List.ext_getElem
  · simp
  · intro place _ bound
    have small : place < words.length := by simpa using bound
    simp only [List.getElem_map, List.getElem_range]
    exact wordAt_overwriteAt_image memory fits small

end Memory

namespace Machine

theorem perform_load_numbers (machine : Machine) (program : List UInt8) :
    machine.perform (.load (numbers program)) =
      if 3232 ≤ program.length then .error (.programTooLarge program.length 3232) machine
      else
        .ok none
          { machine with
            core := { machine.core with
              memory := { machine.core.memory with
                ram := machine.core.memory.ram.overwriteAt Memory.programStart program } } } := by
  rw [perform_load, Memory.load_numbers]
  by_cases large : 3232 ≤ program.length
  · rw [if_pos large, if_pos large]
  · rw [if_neg large, if_neg large]

/-- How a machine loads programs, and how their words are fetched. -/
structure LoadLaw (machine : Machine) : Prop where
  fails_iff : ∀ program : List UInt8,
    (∃ fault after, machine.perform (.load (numbers program)) = .error fault after) ↔
      3232 ≤ program.length
  /-- A program that is too large changes nothing. -/
  refused : ∀ (program : List UInt8) fault after,
    machine.perform (.load (numbers program)) = .error fault after →
    fault = .programTooLarge program.length 3232 ∧ after = machine
  /-- Any other program changes the cells from `0x200` on, and nothing else. -/
  loaded : ∀ program : List UInt8, program.length < 3232 →
    ∃ ram, machine.perform (.load (numbers program)) =
        .ok none
          { machine with
            core := { machine.core with memory := { machine.core.memory with ram } } } ∧
      ∀ address, 0 ≤ address → ram.byteAt address =
        if 0x200 ≤ address ∧ address < 0x200 + program.length then
          program.getD (address - 0x200).toNat 0
        else
          machine.core.memory.byteAt address
  /-- The words of a loaded program are fetched in their order. -/
  fetched : ∀ words : List UInt16, 2 * words.length < 3232 →
    ∃ after, machine.perform (.load (numbers (Memory.image words))) = .ok none after ∧
      Memory.fetchWords words.length { after.core.memory with programCounter := 0x200 } =
        .ok (words.map fun word => (word.toNat : Int))
          { after.core.memory with programCounter := 0x200 + 2 * words.length }
  /-- A fetch is refused in place exactly when the word would reach the reserved part. -/
  fetchRefused : ∀ counter : Int,
    let memory : Memory := { machine.core.memory with programCounter := counter }
    (∃ fault after, memory.fetch = .error fault after ∧ fault.kind = .addressRange ∧
      after.programCounter = counter) ↔ 0xEA0 < counter + 2

/-- Loading and fetching are inverse to each other. -/
theorem loadLaw (machine : Machine) : machine.LoadLaw where
  fails_iff program := by
    rw [perform_load_numbers]
    by_cases large : 3232 ≤ program.length
    · rw [if_pos large]
      exact ⟨fun _ => large, fun _ => ⟨_, _, rfl⟩⟩
    · rw [if_neg large]
      refine ⟨?_, fun other => absurd other large⟩
      rintro ⟨fault, after, failed⟩
      cases failed
  refused := by
    intro program fault after failed
    rw [perform_load_numbers] at failed
    split at failed
    · cases failed
      exact ⟨rfl, rfl⟩
    · cases failed
  loaded := by
    intro program fits
    rw [perform_load_numbers, if_neg (Nat.not_le.mpr fits)]
    refine ⟨_, rfl, ?_⟩
    intro address nonneg
    have inside : (0x200 : Int) + program.length ≤ (Length.number Memory.cellCount).count := by
      simp only [Length.count_number, Memory.cellCount]
      omega
    exact machine.core.memory.ram.byteAt_overwriteAt (by decide) inside nonneg
  fetched := by
    intro words fits
    have length := Memory.length_image words
    rw [perform_load_numbers, if_neg (by omega)]
    exact ⟨_, rfl, Memory.fetchWords_image machine.core.memory fits⟩
  fetchRefused _ := Memory.fetch_refused_iff _

end Machine

end Chip8
