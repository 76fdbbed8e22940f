import Chip8.Instruction
import Mathlib
/-!
Patterns of instruction words.  A word matches the pattern of an instruction
when each of its four digits is the symbol at its place, or that symbol is a
free one.  Decoding finds an instruction exactly when the word matches its
pattern, and no word matches two of them.
-/

namespace Chip8

theorem Word.val_nibble (word : Int) (place : Nat) :
    ((nibble word place).val : Int) = word / 16 ^ place % 16 := by
  have power : ((Nat.pow 16 place : Nat) : Int) = 16 ^ place := Nat.cast_pow 16 place
  simp only [nibble, power]
  omega

namespace Opcode

/-- The digit that a symbol of a pattern stands for, if it is not a free one. -/
def symbolDigit? : Char → Option Nat
  | '0' => some 0
  | '1' => some 1
  | '2' => some 2
  | '3' => some 3
  | '4' => some 4
  | '5' => some 5
  | '6' => some 6
  | '7' => some 7
  | '8' => some 8
  | '9' => some 9
  | 'A' => some 10
  | 'B' => some 11
  | 'C' => some 12
  | 'D' => some 13
  | 'E' => some 14
  | 'F' => some 15
  | _ => none

/-- A digit may stand where a pattern has a symbol. -/
def Admits (symbol : Char) (digit : Fin 16) : Prop :=
  match symbolDigit? symbol with
  | some fixed => digit.val = fixed
  | none => symbol ∈ ['X', 'Y', 'N', 'K']

/-- Four digits agree with the pattern of an instruction. -/
def Fits (opcode : Opcode) (first x y n : Fin 16) : Prop :=
  List.Forall₂ Admits opcode.pattern.toList [first, x, y, n]

/-- The low sixteen bits of a word agree with the pattern of an instruction. -/
def Matches (opcode : Opcode) (word : Int) : Prop :=
  opcode.Fits (Word.nibble word 3) (Word.nibble word 2) (Word.nibble word 1) (Word.nibble word 0)

theorem fits_of_arithmetic?
    {n : Fin 16} {opcode : Opcode}
    (found : arithmetic? n = some opcode) (x y : Fin 16) :
    opcode.Fits 8 x y n := by
  unfold arithmetic? at found
  split at found <;> simp only [Option.some.injEq, reduceCtorEq] at found
  all_goals
    subst found
    simp [Fits, pattern, Admits, symbolDigit?]
    omega

theorem fits_of_transfer?
    {y n : Fin 16} {opcode : Opcode}
    (found : transfer? y n = some opcode) (x : Fin 16) :
    opcode.Fits 15 x y n := by
  unfold transfer? at found
  split at found <;> simp only [Option.some.injEq, reduceCtorEq] at found
  all_goals
    subst found
    simp [Fits, pattern, Admits, symbolDigit?]
    omega

theorem fits_of_ofNibbles?
    {first x y n : Fin 16} {opcode : Opcode}
    (found : ofNibbles? first x y n = some opcode) :
    opcode.Fits first x y n := by
  obtain ⟨digit, small⟩ := first
  unfold ofNibbles? at found
  simp only at found
  split at found
  case h_9 => exact fits_of_arithmetic? found x y
  case h_16 =>
    have last : digit = 15 := by grind
    subst last
    exact fits_of_transfer? found x
  all_goals try split at found
  all_goals cases found
  all_goals
    simp [Fits, pattern, Admits, symbolDigit?]
    try omega

theorem ofNibbles?_of_fits
    {first x y n : Fin 16} {opcode : Opcode}
    (fits : opcode.Fits first x y n) :
    ofNibbles? first x y n = some opcode := by
  cases opcode
  all_goals
    simp only [Fits, pattern] at fits
    simp [Admits, symbolDigit?] at fits
    simp [ofNibbles?, arithmetic?, transfer?, fits]

theorem ofNibbles?_eq_some_iff
    {first x y n : Fin 16} {opcode : Opcode} :
    ofNibbles? first x y n = some opcode ↔ opcode.Fits first x y n :=
  ⟨fits_of_ofNibbles?, ofNibbles?_of_fits⟩

/-- No word matches the patterns of two instructions. -/
theorem eq_of_matches
    {word : Int} {left right : Opcode}
    (leftMatches : left.Matches word) (rightMatches : right.Matches word) :
    left = right :=
  Option.some.inj ((ofNibbles?_of_fits leftMatches).symm.trans (ofNibbles?_of_fits rightMatches))

end Opcode

namespace Instruction

theorem decode_eq_ok_iff
    {word : Int} {instruction : Instruction} :
    decode word = .ok instruction ↔
      instruction.opcode.Matches word ∧
        instruction = ⟨word, instruction.opcode, Word.nibble word 2, Word.nibble word 1,
          Word.nibble word 0⟩ := by
  unfold decode Opcode.Matches
  simp only [Word.nibbles, ← Opcode.ofNibbles?_eq_some_iff]
  constructor
  · intro decoded
    split at decoded
    next opcode found =>
      cases decoded
      exact ⟨found, rfl⟩
    next missing => cases decoded
  · rintro ⟨found, same⟩
    rw [found, same]

theorem decode_eq_error_iff
    {word : Int} {fault : Fault} :
    decode word = .error fault ↔
      (∀ opcode : Opcode, ¬ opcode.Matches word) ∧ fault = .unsupportedWord word := by
  unfold decode Opcode.Matches
  simp only [Word.nibbles, ← Opcode.ofNibbles?_eq_some_iff]
  split
  next opcode found => simp [found]
  next missing => simp [missing, eq_comm]

/-- The last two digits of a word are its low eight bits. -/
theorem byte_of_decode
    {word : Int} {instruction : Instruction}
    (decoded : decode word = .ok instruction) :
    (instruction.byte.toNat : Int) = word % 0x100 := by
  rw [(decode_eq_ok_iff.mp decoded).2, toNat_byte]
  have y := Word.val_nibble word 1
  have n := Word.val_nibble word 0
  simp only
  omega

/-- The last three digits of a word are its low twelve bits. -/
theorem address_of_decode
    {word : Int} {instruction : Instruction}
    (decoded : decode word = .ok instruction) :
    instruction.address = word % 0x1000 := by
  rw [(decode_eq_ok_iff.mp decoded).2]
  have x := Word.val_nibble word 2
  have y := Word.val_nibble word 1
  have n := Word.val_nibble word 0
  simp only [address]
  omega

end Instruction

end Chip8
