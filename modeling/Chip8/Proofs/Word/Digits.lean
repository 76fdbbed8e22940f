import Chip8.Proofs.Display.Sprite
import Chip8.Proofs.Instruction.Decoding
import Mathlib
/-!
Numbers of any size and sign and their digits.  The digits of a number are the
only ones that have its value, or what is left of it modulo a power of the base;
so two numbers with the same digits are the same, or differ by a multiple of
that power.  The hexadecimal digits of a word are also what its masks leave, and
the bits of a byte are its binary digits in two's complement.
-/

namespace Chip8.Word

/-- The number of some binary digits, the most significant one first. -/
def ofBits (digits : List Bool) : Nat :=
  digits.foldl (fun value bit => 2 * value + bit.toNat) 0

/-- The last binary digits of a number, as many as are asked for. -/
def lastBits : (count : Nat) → (number : Int) → List Bool
  | 0, _ => []
  | count + 1, number => lastBits count (number / 2) ++ [decide (number % 2 = 1)]

theorem ofBits_append_singleton (digits : List Bool) (bit : Bool) :
    ofBits (digits ++ [bit]) = 2 * ofBits digits + bit.toNat :=
  List.foldl_append

/-- As many digits as there are in another row have another value, unless they are the same. -/
theorem ofBits_inj
    {left right : List Bool} (length : left.length = right.length)
    (value : ofBits left = ofBits right) : left = right := by
  induction left using List.reverseRecOn generalizing right with
  | nil => exact (List.length_eq_zero_iff.mp length.symm).symm
  | append_singleton front last inductionHypothesis =>
      cases right using List.reverseRecOn with
      | nil => simp at length
      | append_singleton otherFront otherLast =>
          rw [ofBits_append_singleton, ofBits_append_singleton] at value
          have lastSmall := last.toNat_lt
          have otherSmall := otherLast.toNat_lt
          have fronts : ofBits front = ofBits otherFront := by omega
          have lasts : last = otherLast := by
            have same : last.toNat = otherLast.toNat := by omega
            revert same
            cases last <;> cases otherLast <;> decide
          rw [inductionHypothesis (by simpa using length) fronts, lasts]

/-- The last digit of a number, and the others that follow from the quotient. -/
theorem emod_mul (number : Int) {base power : Int} (basePos : 0 < base) (powerPos : 0 < power) :
    number % (base * power) = base * (number / base % power) + number % base := by
  have quotientNonneg := Int.emod_nonneg (number / base) powerPos.ne'
  have quotientLt := Int.emod_lt_of_pos (number / base) powerPos
  have digitNonneg := Int.emod_nonneg number basePos.ne'
  have digitLt := Int.emod_lt_of_pos number basePos
  have parts : number = base * (number / base % power) + number % base +
      base * power * (number / base / power) := by
    calc number
      _ = base * (number / base) + number % base := (Int.mul_ediv_add_emod number base).symm
      _ = base * (power * (number / base / power) + number / base % power) + number % base := by
          rw [Int.mul_ediv_add_emod (number / base)]
      _ = _ := by ring
  have small : base * (number / base % power) + number % base < base * power := by
    calc base * (number / base % power) + number % base
      _ < base * (number / base % power) + base := by omega
      _ = base * (number / base % power + 1) := by ring
      _ ≤ base * power := Int.mul_le_mul_of_nonneg_left quotientLt basePos.le
  calc number % (base * power)
    _ = (base * (number / base % power) + number % base) % (base * power) := by
        conv_lhs => rw [parts]
        exact Int.add_mul_emod_self_left ..
    _ = base * (number / base % power) + number % base :=
        Int.emod_eq_of_lt (by positivity) small

theorem ofBits_lastBits (count : Nat) (number : Int) :
    (ofBits (lastBits count number) : Int) = number % 2 ^ count := by
  induction count generalizing number with
  | zero => simp [lastBits, ofBits]
  | succ count inductionHypothesis =>
      have last : ((decide (number % 2 = 1)).toNat : Int) = number % 2 := by
        rcases Int.emod_two_eq_zero_or_one number with even | odd
        · simp [even]
        · simp [odd]
      rw [lastBits, ofBits_append_singleton, pow_succ', emod_mul number two_pos (by positivity),
        ← inductionHypothesis, Nat.cast_add, last, Nat.cast_mul, Nat.cast_ofNat]

theorem bits_eq_lastBits (byte : Int) : bits byte = lastBits 8 byte := by
  simp only [bits, lastBits, List.map_cons, List.map_nil, List.nil_append, List.cons_append,
    Nat.pow_eq, Nat.reducePow, Nat.cast_ofNat, Nat.cast_one, Int.ediv_one, List.cons.injEq,
    decide_eq_decide, and_true]
  refine ⟨?_, ?_, ?_, ?_, ?_, ?_⟩ <;> omega

/-- The bits of a byte are the eight digits of its value. -/
theorem bits_eq_iff {byte : Int} {digits : List Bool} :
    bits byte = digits ↔ digits.length = 8 ∧ (ofBits digits : Int) = byte % 0x100 := by
  have value := ofBits_lastBits 8 byte
  rw [← bits_eq_lastBits] at value
  constructor
  · rintro rfl
    exact ⟨length_bits byte, value⟩
  · rintro ⟨length, same⟩
    apply ofBits_inj ((length_bits byte).trans length.symm)
    exact Int.natCast_inj.mp (value.trans same.symm)

theorem bits_eq_map_testBit (byte : Int) :
    bits byte = [7, 6, 5, 4, 3, 2, 1, 0].map byte.testBit := by
  simp only [bits, decide_div_mod_eq_testBit]

theorem nibbles_eq_iff {word : Int} {first second third fourth : Fin 16} :
    nibbles word = (first, second, third, fourth) ↔
      4096 * first.val + 256 * second.val + 16 * third.val + fourth.val = word % 0x10000 := by
  have value := mod_eq_nibbles word
  push_cast at value
  simp only [nibbles, Prod.mk.injEq, Fin.ext_iff]
  constructor
  · rintro ⟨firstSame, secondSame, thirdSame, fourthSame⟩
    rw [value, firstSame, secondSame, thirdSame, fourthSame]
    ring
  · intro same
    omega

/-- A digit of a word is what is left of it under a mask of four bits, moved to the right. -/
theorem nibble_eq_land (word : Int) {place : Nat} (low : place < 4) :
    ((nibble word place).val : Int) = word.land (0xF * 16 ^ place : Nat) >>> (4 * place) := by
  have power : 16 ^ place = 2 ^ (4 * place) := by rw [pow_mul]; norm_num
  have mask : 0xF * 16 ^ place < 2 ^ 16 := by
    have most : 16 ^ place ≤ 16 ^ 3 := Nat.pow_le_pow_right (by decide) (by omega)
    omega
  have moved : (0xF * 16 ^ place) >>> (4 * place) = 2 ^ 4 - 1 := by
    rw [Nat.shiftRight_eq_div_pow, power, Nat.mul_div_cancel _ (Nat.two_pow_pos _)]
    rfl
  have digit := val_nibble (word % 0x10000) place
  rw [nibble_mod word low] at digit
  rw [land_mask word mask, ← Int.natCast_shiftRight, Nat.shiftRight_and_distrib, moved,
    Nat.and_two_pow_sub_one_eq_mod, Nat.shiftRight_eq_div_pow, ← power, digit]
  push_cast
  rw [Int.toNat_of_nonneg (Int.emod_nonneg word (by decide))]

theorem decimalDigits_eq_iff {value hundreds tens ones : Int} :
    decimalDigits value = (hundreds, tens, ones) ↔
      (0 ≤ tens ∧ tens ≤ 9) ∧ (0 ≤ ones ∧ ones ≤ 9) ∧
        100 * hundreds + 10 * tens + ones = value := by
  simp only [decimalDigits, Prod.mk.injEq]
  omega

/-- Digits that tell the remainder tell the numbers below the divisor apart. -/
theorem injOn_of_emod_eq
    {Digits : Type} {digitsOf : Int → Digits} {bound : Int}
    (remainder : ∀ number other, digitsOf number = digitsOf other →
      number % bound = other % bound) :
    Set.InjOn digitsOf (Set.Ico 0 bound) := by
  intro number inside other otherInside same
  have value := remainder number other same
  rw [Int.emod_eq_of_lt inside.1 inside.2, Int.emod_eq_of_lt otherInside.1 otherInside.2] at value
  exact value

/-- Which digits a number of any size and sign has. -/
structure DigitLaw : Prop where
  hexadecimal : ∀ (word : Int) (first second third fourth : Fin 16),
    nibbles word = (first, second, third, fourth) ↔
      4096 * first.val + 256 * second.val + 16 * third.val + fourth.val = word % 0x10000
  masks : ∀ word : Int,
    ((nibbles word).1.val : Int) = word.land 0xF000 >>> (12 : Nat) ∧
    ((nibbles word).2.1.val : Int) = word.land 0x0F00 >>> (8 : Nat) ∧
    ((nibbles word).2.2.1.val : Int) = word.land 0x00F0 >>> (4 : Nat) ∧
    ((nibbles word).2.2.2.val : Int) = word.land 0x000F
  binary : ∀ (byte : Int) (digits : List Bool),
    bits byte = digits ↔ digits.length = 8 ∧ (ofBits digits : Int) = byte % 0x100
  twosComplement : ∀ byte : Int, bits byte = [7, 6, 5, 4, 3, 2, 1, 0].map byte.testBit
  decimal : ∀ value hundreds tens ones : Int,
    decimalDigits value = (hundreds, tens, ones) ↔
      (0 ≤ tens ∧ tens ≤ 9) ∧ (0 ≤ ones ∧ ones ≤ 9) ∧
        100 * hundreds + 10 * tens + ones = value
  words : Set.InjOn nibbles (Set.Ico 0 0x10000)
  bytes : Set.InjOn bits (Set.Ico 0 0x100)
  numbers : Function.Injective decimalDigits

theorem digitLaw : DigitLaw where
  hexadecimal _ _ _ _ _ := nibbles_eq_iff
  masks word := by
    have first := nibble_eq_land word (by decide : 3 < 4)
    have second := nibble_eq_land word (by decide : 2 < 4)
    have third := nibble_eq_land word (by decide : 1 < 4)
    have fourth := nibble_eq_land word (by decide : 0 < 4)
    norm_num at first second third fourth
    exact ⟨first, second, third, fourth⟩
  binary _ _ := bits_eq_iff
  twosComplement := bits_eq_map_testBit
  decimal _ _ _ _ := decimalDigits_eq_iff
  words := by
    apply injOn_of_emod_eq
    intro word other same
    exact (nibbles_eq_iff.mp same).symm.trans (nibbles_eq_iff.mp rfl)
  bytes := by
    apply injOn_of_emod_eq
    intro byte other same
    exact (bits_eq_iff.mp same).2.symm.trans (bits_eq_iff.mp rfl).2
  numbers := by
    intro value other same
    exact (decimalDigits_eq_iff.mp same).2.2.symm.trans (decimalDigits_eq_iff.mp rfl).2.2

example : nibbles (-2) = (15, 15, 15, 14) ∧ decimalDigits (-1) = (-1, 9, 9) := by decide

end Chip8.Word
