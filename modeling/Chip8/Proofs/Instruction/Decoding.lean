import Chip8.Proofs.Instruction.Pattern
import Chip8.Proofs.Text.Hex
import Mathlib
/-!
Decoding of numbers of any size and sign.  The low sixteen bits of a number
decide whether it is an instruction and which one; a pattern is a mask and the
value that is left under it.  Patterns may be tried in any order, since no
number matches two of them, and a pattern with the operands put in place of
its free symbols is the text of the word again.
-/

namespace Chip8

open Text (HexLayout)

namespace Word

theorem nibble_mod (word : Int) {place : Nat} (low : place < 4) :
    nibble (word % 0x10000) place = nibble word place := by
  have remainder := val_nibble (word % 0x10000) place
  have whole := val_nibble word place
  apply Fin.ext
  interval_cases place <;> omega

theorem mod_eq_nibbles (word : Int) :
    word % 0x10000 =
      ((16 ^ 1 * (16 ^ 1 * (16 ^ 1 * (nibble word 3).val + (nibble word 2).val) +
        (nibble word 1).val) + (nibble word 0).val : Nat) : Int) := by
  have first := val_nibble word 3
  have second := val_nibble word 2
  have third := val_nibble word 1
  have fourth := val_nibble word 0
  push_cast
  omega

/-- A mask of sixteen bits sees the low sixteen bits of a number only. -/
theorem land_mask (word : Int) {mask : Nat} (small : mask < 2 ^ 16) :
    word.land mask = (((word % 0x10000).toNat &&& mask : Nat) : Int) := by
  have high {place : Nat} (beyond : ¬ place < 16) : mask.testBit place = false :=
    Nat.testBit_lt_two_pow (small.trans_le (Nat.pow_le_pow_right Nat.two_pos (by omega)))
  cases word with
  | ofNat number =>
      have low : ((Int.ofNat number) % 0x10000).toNat = number % 2 ^ 16 := by
        simp only [Int.ofNat_eq_natCast]
        omega
      have masked : (Int.ofNat number).land mask = ((number &&& mask : Nat) : Int) := rfl
      rw [masked, low, Int.natCast_inj]
      apply Nat.eq_of_testBit_eq
      intro place
      rw [Nat.testBit_and, Nat.testBit_and, Nat.testBit_mod_two_pow]
      by_cases inside : place < 16
      · simp [inside]
      · simp [high inside]
  | negSucc number =>
      -- the bits of a negative number are the complements of those of a natural one
      have low : ((Int.negSucc number) % 0x10000).toNat = 2 ^ 16 - (number % 2 ^ 16 + 1) := by
        omega
      have masked : (Int.negSucc number).land mask = ((mask.ldiff number : Nat) : Int) := rfl
      rw [masked, low, Int.natCast_inj]
      apply Nat.eq_of_testBit_eq
      intro place
      rw [Nat.testBit_ldiff, Nat.testBit_and,
        Nat.testBit_two_pow_sub_succ (Nat.mod_lt number (by decide)), Nat.testBit_mod_two_pow]
      by_cases inside : place < 16
      · simp [inside, Bool.and_comm]
      · simp [high inside]

theorem land_append_digit
    (number mask : Nat) {digit cover : Nat} (digitSmall : digit < 2 ^ 4)
    (coverSmall : cover < 2 ^ 4) :
    (2 ^ 4 * number + digit) &&& (2 ^ 4 * mask + cover) =
      2 ^ 4 * (number &&& mask) + (digit &&& cover) := by
  have both : digit &&& cover < 2 ^ 4 := Nat.and_lt_two_pow digit coverSmall
  apply Nat.eq_of_testBit_eq
  intro place
  rw [Nat.testBit_and, Nat.testBit_two_pow_mul_add number digitSmall,
    Nat.testBit_two_pow_mul_add mask coverSmall, Nat.testBit_two_pow_mul_add _ both]
  split <;> simp [Nat.testBit_and]

end Word

namespace Opcode

theorem mem_all (opcode : Opcode) : opcode ∈ all := by
  cases opcode <;> decide

theorem matches_mod {opcode : Opcode} {word : Int} :
    opcode.Matches (word % 0x10000) ↔ opcode.Matches word := by
  unfold Matches
  rw [Word.nibble_mod word (by decide : 0 < 4), Word.nibble_mod word (by decide : 1 < 4),
    Word.nibble_mod word (by decide : 2 < 4), Word.nibble_mod word (by decide : 3 < 4)]

instance decidableAdmits (symbol : Char) (digit : Fin 16) : Decidable (Admits symbol digit) :=
  match found : symbolDigit? symbol with
  | some fixed => decidable_of_iff (digit.val = fixed) (by rw [Admits, found])
  | none => decidable_of_iff (symbol ∈ ['X', 'Y', 'N', 'K']) (by rw [Admits, found])

instance decidableMatches (opcode : Opcode) (word : Int) : Decidable (opcode.Matches word) :=
  inferInstanceAs (Decidable (List.Forall₂ Admits _ _))

/-- The bits that a symbol of a pattern decides: all of its digit or none. -/
def symbolMask (symbol : Char) : Nat :=
  if (symbolDigit? symbol).isSome then 0xF else 0x0

/-- What a symbol of a pattern leaves of its digit under the mask. -/
def symbolValue (symbol : Char) : Nat :=
  (symbolDigit? symbol).getD 0x0

/-- The bits of a word that its pattern decides. -/
def mask (opcode : Opcode) : Nat :=
  Nat.ofDigits (2 ^ 4) (opcode.pattern.toList.reverse.map symbolMask)

/-- What the mask of an instruction leaves of its words. -/
def maskedValue (opcode : Opcode) : Nat :=
  Nat.ofDigits (2 ^ 4) (opcode.pattern.toList.reverse.map symbolValue)

theorem lt_of_symbolDigit?
    {symbol : Char} {digit : Nat} (found : symbolDigit? symbol = some digit) : digit < 2 ^ 4 := by
  unfold symbolDigit? at found
  split at found <;> cases found <;> decide

theorem symbolMask_lt (symbol : Char) : symbolMask symbol < 2 ^ 4 := by
  unfold symbolMask
  split <;> decide

theorem symbolValue_lt (symbol : Char) : symbolValue symbol < 2 ^ 4 := by
  unfold symbolValue
  cases found : symbolDigit? symbol with
  | none => decide
  | some digit => exact lt_of_symbolDigit? found

/-- A symbol that may stand in a pattern. -/
def IsSymbol (symbol : Char) : Prop :=
  (symbolDigit? symbol).isSome ∨ symbol ∈ ['X', 'Y', 'N', 'K']

theorem isSymbol_of_mem_pattern
    {opcode : Opcode} {symbol : Char} (membership : symbol ∈ opcode.pattern.toList) :
    IsSymbol symbol := by
  revert symbol
  cases opcode <;> simp [pattern, IsSymbol, symbolDigit?]

theorem land_symbolMask_iff
    {symbol : Char} (isSymbol : IsSymbol symbol) (digit : Fin 16) :
    digit.val &&& symbolMask symbol = symbolValue symbol ↔ Admits symbol digit := by
  unfold IsSymbol at isSymbol
  unfold symbolMask symbolValue Admits
  cases found : symbolDigit? symbol with
  | none =>
      rw [found] at isSymbol
      have free := isSymbol.resolve_left (by decide)
      simp [free]
  | some fixed =>
      have kept : digit.val &&& 0xF = digit.val :=
        (Nat.and_two_pow_sub_one_eq_mod digit.val 4).trans (Nat.mod_eq_of_lt digit.isLt)
      simp [kept]

/-- Digits agree with symbols exactly when the mask leaves the value of the symbols. -/
theorem land_ofDigits_iff
    {symbols : List Char} (areSymbols : ∀ symbol ∈ symbols, IsSymbol symbol)
    {digits : List (Fin 16)} (same : symbols.length = digits.length) :
    Nat.ofDigits (2 ^ 4) (digits.map Fin.val) &&& Nat.ofDigits (2 ^ 4) (symbols.map symbolMask) =
        Nat.ofDigits (2 ^ 4) (symbols.map symbolValue) ↔
      List.Forall₂ Admits symbols digits := by
  induction symbols generalizing digits with
  | nil =>
      rw [List.length_eq_zero_iff.mp same.symm]
      simp
  | cons symbol symbols inductionHypothesis =>
      cases digits with
      | nil => cases same
      | cons digit digits =>
          have rest := inductionHypothesis
            (fun other membership => areSymbols other (List.mem_cons_of_mem symbol membership))
            (Nat.succ.inj same)
          have first := land_symbolMask_iff (areSymbols symbol List.mem_cons_self) digit
          have masked := Nat.and_lt_two_pow digit.val (symbolMask_lt symbol)
          have value := symbolValue_lt symbol
          rw [List.forall₂_cons, ← rest, ← first]
          simp only [List.map_cons, Nat.ofDigits_cons]
          rw [Nat.add_comm (digit.val : Nat), Nat.add_comm (symbolMask symbol : Nat),
            Word.land_append_digit _ _ digit.isLt (symbolMask_lt symbol)]
          omega

/-- A word matches a pattern when its bits under the mask are those of the pattern. -/
theorem matches_iff_land {opcode : Opcode} {word : Int} :
    opcode.Matches word ↔ word.land opcode.mask = opcode.maskedValue := by
  have small : opcode.mask < 2 ^ 16 := by cases opcode <;> decide
  have four : opcode.pattern.toList.length = 4 := by cases opcode <;> decide
  have digits : (word % 0x10000).toNat =
      Nat.ofDigits (2 ^ 4) ([Word.nibble word 3, Word.nibble word 2, Word.nibble word 1,
        Word.nibble word 0].reverse.map Fin.val) := by
    rw [Word.mod_eq_nibbles]
    simp only [List.reverse_cons, List.reverse_nil, List.nil_append, List.cons_append,
      List.map_cons, List.map_nil, Nat.ofDigits_cons, Nat.ofDigits_nil, Int.toNat_natCast]
    omega
  rw [Matches, Fits, Word.land_mask word small, Int.natCast_inj, digits,
    ← List.forall₂_reverse_iff]
  refine (land_ofDigits_iff ?_ ?_).symm
  · intro symbol membership
    exact isSymbol_of_mem_pattern (List.mem_reverse.mp membership)
  · simp [four]

/-- The text of an operand with as many digits as it has symbols in a pattern. -/
def fieldText (count : Nat) (value : Int) : List Char :=
  HexLayout.characters { HexLayout.word with width := count } value

/-- A pattern with the operands in place of its free symbols, one for each run of them. -/
def substitute (values : OperandValues) : List Char → List Char
  | 'N' :: 'N' :: 'N' :: symbols => fieldText 3 values.nnn ++ substitute values symbols
  | 'K' :: 'K' :: symbols => fieldText 2 values.kk ++ substitute values symbols
  | 'X' :: symbols => fieldText 1 values.x ++ substitute values symbols
  | 'Y' :: symbols => fieldText 1 values.y ++ substitute values symbols
  | 'N' :: symbols => fieldText 1 values.n ++ substitute values symbols
  | symbol :: symbols => symbol :: substitute values symbols
  | [] => []

theorem fieldText_eq_lastDigits
    {count value : Nat} (positive : 0 < count) (small : value < 16 ^ count) :
    fieldText count value = HexLayout.word.lastDigits count value := by
  have written : fieldText count value = (HexLayout.mk true false count).lastDigits count value :=
    HexLayout.characters_eq_lastDigits positive small (Nat.zero_add count).symm
  have letters : (HexLayout.mk true false count).capitals = HexLayout.word.capitals := rfl
  exact written.trans (HexLayout.lastDigits_of_capitals letters count value)

theorem fieldText_nibble (digit : Fin 16) :
    fieldText 1 digit.val = HexLayout.word.lastDigits 1 digit.val :=
  fieldText_eq_lastDigits Nat.one_pos digit.isLt

end Opcode

namespace Instruction

variable (instruction : Instruction)

theorem fieldText_byte :
    Opcode.fieldText 2 instruction.byte.toNat =
      HexLayout.word.lastDigits 1 instruction.y.val ++
        HexLayout.word.lastDigits 1 instruction.n.val := by
  rw [Opcode.fieldText_eq_lastDigits Nat.two_pos instruction.byte.toNat_lt, toNat_byte]
  exact HexLayout.word.lastDigits_append 1 1 instruction.y.val instruction.n.isLt

theorem fieldText_address :
    Opcode.fieldText 3 instruction.address =
      HexLayout.word.lastDigits 1 instruction.x.val ++
        HexLayout.word.lastDigits 1 instruction.y.val ++
          HexLayout.word.lastDigits 1 instruction.n.val := by
  have digits : instruction.address =
      ((16 ^ 1 * (16 ^ 1 * instruction.x.val + instruction.y.val) + instruction.n.val : Nat) :
        Int) := by
    rw [address]
    push_cast
    omega
  rw [digits, Opcode.fieldText_eq_lastDigits (Nat.succ_pos 2) (by omega),
    HexLayout.word.lastDigits_append 2 1 _ instruction.n.isLt,
    HexLayout.word.lastDigits_append 1 1 _ instruction.y.isLt]

end Instruction

theorem Word.characters_mod (word : Int) :
    HexLayout.word.characters (word % 0x10000) =
      HexLayout.word.lastDigits 1 (nibble word 3).val ++
        HexLayout.word.lastDigits 1 (nibble word 2).val ++
          HexLayout.word.lastDigits 1 (nibble word 1).val ++
            HexLayout.word.lastDigits 1 (nibble word 0).val := by
  have lead : HexLayout.word.lead 0 = [] := rfl
  rw [mod_eq_nibbles, HexLayout.characters_eq_lastDigits (Nat.succ_pos 3) (by omega) rfl, lead,
    List.nil_append, HexLayout.word.lastDigits_append 3 1 _ (nibble word 0).isLt,
    HexLayout.word.lastDigits_append 2 1 _ (nibble word 1).isLt,
    HexLayout.word.lastDigits_append 1 1 _ (nibble word 2).isLt]

namespace Instruction

theorem operands_of_decode
    {word : Int} {instruction : Instruction} (decoded : decode word = .ok instruction) :
    instruction.x = Word.nibble word 2 ∧ instruction.y = Word.nibble word 1 ∧
      instruction.n = Word.nibble word 0 := by
  have same := (decode_eq_ok_iff.mp decoded).2
  exact ⟨congrArg Instruction.x same, congrArg Instruction.y same, congrArg Instruction.n same⟩

/-- A pattern with the operands of a word put in is the text of the word. -/
theorem substitute_of_decode
    {word : Int} {instruction : Instruction} (decoded : decode word = .ok instruction) :
    Opcode.substitute instruction.operandValues instruction.opcode.pattern.toList =
      HexLayout.word.characters (word % 0x10000) := by
  obtain ⟨matched, -⟩ := decode_eq_ok_iff.mp decoded
  obtain ⟨x, y, n⟩ := operands_of_decode decoded
  unfold Opcode.Matches Opcode.Fits at matched
  rw [← x, ← y, ← n] at matched
  rw [Word.characters_mod, ← x, ← y, ← n]
  -- the fixed symbols of each pattern say what the digits in their places are
  cases opcode : instruction.opcode
  all_goals
    simp only [opcode, Opcode.pattern] at matched ⊢
    simp [Opcode.Admits, Opcode.symbolDigit?] at matched
    simp [Opcode.substitute, operandValues, Opcode.fieldText_nibble, fieldText_byte,
      fieldText_address, matched]
    rfl

/-- The first symbol of a pattern is never a free one. -/
theorem head?_substitute (values : OperandValues) (opcode : Opcode) :
    (Opcode.substitute values opcode.pattern.toList).head? = opcode.pattern.toList.head? := by
  cases opcode <;> rfl

/-- Only the low sixteen bits of a number decide, and the number itself is kept. -/
theorem decode_mod (word : Int) :
    decode (word % 0x10000) =
      match decode word with
      | .ok instruction => .ok { instruction with word := word % 0x10000 }
      | .error _ => .error (.unsupportedWord (word % 0x10000)) := by
  have digits : Word.nibbles (word % 0x10000) = Word.nibbles word := by
    rw [Word.nibbles, Word.nibble_mod word (by decide), Word.nibble_mod word (by decide),
      Word.nibble_mod word (by decide), Word.nibble_mod word (by decide)]
    rfl
  simp only [decode, digits]
  cases Opcode.ofNibbles? (Word.nibbles word).1 (Word.nibbles word).2.1 (Word.nibbles word).2.2.1
    (Word.nibbles word).2.2.2 <;> rfl

/-- What an instruction tells about the number that it was decoded from. -/
structure Reads (instruction : Instruction) (word : Int) : Prop where
  kept : instruction.word = word
  matched : instruction.opcode.Matches (word % 0x10000)
  x : (instruction.x.val : Int) = word % 0x10000 / 0x100 % 0x10
  y : (instruction.y.val : Int) = word % 0x10000 / 0x10 % 0x10
  n : (instruction.n.val : Int) = word % 0x10000 % 0x10
  byte : (instruction.byte.toNat : Int) = word % 0x10000 % 0x100
  address : instruction.address = word % 0x10000 % 0x1000
  /-- The pattern with the operands put in is the text of the word. -/
  text : Opcode.substitute instruction.operandValues instruction.opcode.pattern.toList =
    HexLayout.word.characters (word % 0x10000)

theorem reads_of_decode
    {word : Int} {instruction : Instruction} (decoded : decode word = .ok instruction) :
    instruction.Reads word := by
  obtain ⟨matched, same⟩ := decode_eq_ok_iff.mp decoded
  obtain ⟨third, second, last⟩ := operands_of_decode decoded
  have x := Word.val_nibble word 2
  have y := Word.val_nibble word 1
  have n := Word.val_nibble word 0
  rw [← third] at x
  rw [← second] at y
  rw [← last] at n
  have byte := byte_of_decode decoded
  have address := address_of_decode decoded
  exact ⟨congrArg Instruction.word same, Opcode.matches_mod.mpr matched, by omega, by omega,
    by omega, by omega, by omega, substitute_of_decode decoded⟩

/-- What decoding makes of a number of any size and sign. -/
structure DecodingLaw (word : Int) : Prop where
  /-- A number is an instruction exactly when its low sixteen bits match a pattern. -/
  accepts : (∃ instruction, decode word = .ok instruction) ↔
    ∃ opcode ∈ Opcode.all, opcode.Matches (word % 0x10000)
  unique : ∀ left right : Opcode, left.Matches (word % 0x10000) →
    right.Matches (word % 0x10000) → left = right
  /-- A pattern is a mask on the number, and the value that the mask leaves. -/
  masked : ∀ opcode : Opcode, opcode.Matches (word % 0x10000) ↔
    word.land opcode.mask = opcode.maskedValue
  /-- The masks may be tried in any order, and only those that begin with the first digit. -/
  anyOrder : ∀ candidates : List Opcode,
    (∀ opcode ∈ Opcode.all,
      opcode.pattern.toList.head? = (HexLayout.word.characters (word % 0x10000)).head? →
      opcode ∈ candidates) →
    candidates.find? (fun opcode => word.land opcode.mask = opcode.maskedValue) =
      (decode word).toOption.map Instruction.opcode
  accepted : ∀ instruction, decode word = .ok instruction → instruction.Reads word
  refused : (∀ opcode : Opcode, ¬ opcode.Matches (word % 0x10000)) →
    decode word = .error (.unsupportedWord word)
  /-- The other bits of the number make no difference. -/
  lowBits : decode (word % 0x10000) =
    match decode word with
    | .ok instruction => .ok { instruction with word := word % 0x10000 }
    | .error _ => .error (.unsupportedWord (word % 0x10000))

theorem find?_mask_eq
    {word : Int} {candidates : List Opcode}
    (complete : ∀ opcode ∈ Opcode.all,
      opcode.pattern.toList.head? = (HexLayout.word.characters (word % 0x10000)).head? →
      opcode ∈ candidates) :
    candidates.find? (fun opcode => word.land opcode.mask = opcode.maskedValue) =
      (decode word).toOption.map Instruction.opcode := by
  simp only [← Opcode.matches_iff_land]
  cases decoded : decode word with
  | error fault =>
      have none := (decode_eq_error_iff.mp decoded).1
      refine List.find?_eq_none.mpr ?_
      intro opcode _
      simpa using none opcode
  | ok instruction =>
      have matched := (decode_eq_ok_iff.mp decoded).1
      have listed : instruction.opcode ∈ candidates := by
        refine complete _ instruction.opcode.mem_all ?_
        rw [← substitute_of_decode decoded, head?_substitute]
      -- whatever is found first matches too, and nothing else does
      cases found : candidates.find? (fun opcode => opcode.Matches word) with
      | none => exact absurd matched (by simpa using List.find?_eq_none.mp found _ listed)
      | some opcode =>
          have other : opcode.Matches word := by simpa using List.find?_some found
          rw [Opcode.eq_of_matches other matched]
          rfl

/-- Decoding accepts exactly the instructions, and it does so for every number. -/
theorem decodingLaw (word : Int) : DecodingLaw word where
  accepts := by
    simp only [Opcode.matches_mod]
    constructor
    · rintro ⟨instruction, decoded⟩
      exact ⟨instruction.opcode, instruction.opcode.mem_all, (decode_eq_ok_iff.mp decoded).1⟩
    · rintro ⟨opcode, -, matched⟩
      exact ⟨⟨word, opcode, _, _, _⟩, decode_eq_ok_iff.mpr ⟨matched, rfl⟩⟩
  unique _ _ leftMatches rightMatches := Opcode.eq_of_matches leftMatches rightMatches
  masked _ := Opcode.matches_mod.trans Opcode.matches_iff_land
  anyOrder _ complete := find?_mask_eq complete
  accepted _ decoded := reads_of_decode decoded
  refused none :=
    decode_eq_error_iff.mpr
      ⟨fun opcode matched => none opcode (Opcode.matches_mod.mpr matched), rfl⟩
  lowBits := decode_mod word

end Instruction

end Chip8
