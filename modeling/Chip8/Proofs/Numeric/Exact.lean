import Chip8.Numeric.Binary64
import Mathlib
/-!
Exact floating-point arithmetic.  Rounding keeps every number with a significand
of 53 bits, so a sum or a product is exact if it is such a number.
-/

namespace Chip8.Numeric

theorem nearestQuotient_mul {denominator : Nat} (positive : 0 < denominator) (quotient : Nat) :
    nearestQuotient (quotient * denominator) denominator = quotient := by
  rw [nearestQuotient, Nat.mul_div_cancel _ positive, Nat.mul_mod_left]
  apply if_neg
  omega

theorem scaleFraction_two (numerator denominator : Nat) (power : Int) :
    ((scaleFraction 2 numerator denominator power).1 : ℚ) /
        (scaleFraction 2 numerator denominator power).2 =
      numerator / denominator * 2 ^ power := by
  rcases Int.eq_nat_or_neg power with ⟨amount, rfl | rfl⟩
  · simp [scaleFraction, mul_div_right_comm]
  · simp [scaleFraction, div_mul_eq_div_div, ← div_eq_mul_inv]

theorem scaleFraction_two_pos
    (numerator : Nat) {denominator : Nat} (positive : 0 < denominator) (power : Int) :
    0 < (scaleFraction 2 numerator denominator power).2 :=
  Nat.mul_pos positive (Nat.pow_pos (by decide))

theorem scaleFraction_two_div_lt
    {numerator denominator bound : Nat} {power : Int} (positive : 0 < denominator)
    (small : (numerator : ℚ) / denominator * 2 ^ power < bound) :
    (scaleFraction 2 numerator denominator power).1 /
      (scaleFraction 2 numerator denominator power).2 < bound := by
  have bottom := scaleFraction_two_pos numerator positive power
  rw [← scaleFraction_two, div_lt_iff₀ (Nat.cast_pos.mpr bottom)] at small
  rw [Nat.div_lt_iff_lt_mul bottom]
  exact_mod_cast small

/-- A fraction that is a natural number at some place is rounded to that number. -/
theorem nearestQuotient_scaleFraction
    {numerator denominator significand : Nat} {place : Int} (positive : 0 < denominator)
    (value : (significand : ℚ) * 2 ^ place = numerator / denominator) :
    nearestQuotient (scaleFraction 2 numerator denominator (-place)).1
      (scaleFraction 2 numerator denominator (-place)).2 = significand := by
  have bottom := scaleFraction_two_pos numerator positive (-place)
  have top : (scaleFraction 2 numerator denominator (-place)).1 =
      significand * (scaleFraction 2 numerator denominator (-place)).2 := by
    have ratio := scaleFraction_two numerator denominator (-place)
    rw [← value, mul_assoc, ← zpow_add₀ two_ne_zero, Int.add_right_neg, zpow_zero, mul_one,
      div_eq_iff (Nat.cast_ne_zero.mpr bottom.ne')] at ratio
    exact_mod_cast ratio
  rw [top]
  exact nearestQuotient_mul bottom significand

/-- The lengths of numerator and denominator give a bound for their quotient. -/
theorem two_pow_log2_le_div
    {numerator denominator : Nat} (nonzero : numerator ≠ 0) (positive : 0 < denominator) :
    (2 : ℚ) ^ ((numerator.log2 : Int) - denominator.log2 - 1) ≤ numerator / denominator := by
  have numeratorBound : (2 : ℚ) ^ numerator.log2 ≤ numerator := by
    exact_mod_cast Nat.log2_self_le nonzero
  have denominatorBound : (denominator : ℚ) < 2 ^ (denominator.log2 + 1) := by
    exact_mod_cast Nat.lt_log2_self
  have positiveRat : (0 : ℚ) < denominator := Nat.cast_pos.mpr positive
  calc
    (2 : ℚ) ^ ((numerator.log2 : Int) - denominator.log2 - 1) =
        2 ^ numerator.log2 / 2 ^ (denominator.log2 + 1) := by
      rw [← zpow_natCast, ← zpow_natCast, ← zpow_sub₀ two_ne_zero]
      congr 1
      omega
    _ ≤ numerator / 2 ^ (denominator.log2 + 1) := by gcongr
    _ ≤ numerator / denominator := by gcongr

/-- A power of two is shifted down to a lower place. -/
theorem two_pow_toNat_mul {low high : Int} (ordered : low ≤ high) :
    (2 : ℚ) ^ (high - low).toNat * 2 ^ low = 2 ^ high := by
  rw [← zpow_natCast, Int.toNat_of_nonneg (Int.sub_nonneg.mpr ordered), ← zpow_add₀ two_ne_zero,
    Int.sub_add_cancel]

namespace Binary64

/-- The number that is meant, unless it is infinite or no number at all. -/
def toRat? : Binary64 → Option ℚ
  | .finite negative significand exponent => some (signed negative significand * 2 ^ exponent)
  | .nan | .infinity _ => none

/-- A number with a significand of 53 bits, not too large and not too fine. -/
def Representable (number : ℚ) : Prop :=
  ∃ significand exponent : Int, significand.natAbs < 2 * fullSignificand ∧
    leastExponent ≤ exponent ∧ exponent < greatestExponent ∧
    number = significand * 2 ^ exponent

/-- The exponent at which a fraction is rounded is not above one that is large enough. -/
theorem exponentOf_le
    {numerator denominator : Nat} {exponent : Int}
    (nonzero : numerator ≠ 0) (positive : 0 < denominator) (low : leastExponent ≤ exponent)
    (small : (numerator : ℚ) / denominator < 2 ^ (exponent + 53)) :
    exponentOf numerator denominator ≤ exponent := by
  let guess := (numerator.log2 : Int) - denominator.log2 - 52
  have close : guess ≤ exponent + 1 := by
    have exponents := (zpow_lt_zpow_iff_right₀ one_lt_two).mp
      ((two_pow_log2_le_div nonzero positive).trans_lt small)
    omega
  have unfolded : exponentOf numerator denominator =
      max
        (if (scaleFraction 2 numerator denominator (-guess)).1 /
            (scaleFraction 2 numerator denominator (-guess)).2 < fullSignificand then guess - 1
          else guess)
        leastExponent := rfl
  rw [unfolded]
  refine max_le ?_ low
  split
  next => exact Int.sub_right_le_of_le_add close
  next wide =>
    -- At `exponent + 1` the significand would be too short.
    by_contra above
    have guessed : guess = exponent + 1 := by omega
    apply wide
    apply scaleFraction_two_div_lt positive
    calc
      (numerator : ℚ) / denominator * 2 ^ (-guess) < 2 ^ (exponent + 53) * 2 ^ (-guess) := by
        gcongr
      _ = 2 ^ (52 : Int) := by
        rw [← zpow_add₀ two_ne_zero, guessed]
        congr 1
        omega
      _ = fullSignificand := by norm_num

/-- A carry out of the significand does not change the number. -/
theorem toRat?_round_of_nearest
    {numerator denominator significand : Nat} (negative : Bool) (nonzero : numerator ≠ 0)
    (nearest :
      nearestQuotient
          (scaleFraction 2 numerator denominator (-exponentOf numerator denominator)).1
          (scaleFraction 2 numerator denominator (-exponentOf numerator denominator)).2 =
        significand)
    (high : exponentOf numerator denominator < greatestExponent) :
    (round negative numerator denominator).toRat? =
      some ((signed negative significand : ℚ) * 2 ^ exponentOf numerator denominator) := by
  let carried : Nat × Int :=
    if significand = 2 * fullSignificand then
      (fullSignificand, exponentOf numerator denominator + 1)
    else (significand, exponentOf numerator denominator)
  have unfolded : round negative numerator denominator =
      if greatestExponent < carried.2 then .infinity negative
      else .finite negative carried.1 carried.2 := by
    rw [round, if_neg nonzero]
    simp only [carried, ← nearest]
  rw [unfolded]
  by_cases carry : significand = 2 * fullSignificand
  · simp only [carried, if_pos carry, if_neg (Int.not_lt.mpr high), toRat?]
    rw [zpow_add₀ two_ne_zero, carry]
    cases negative
    · simp [signed]
      ring
    · simp [signed]
      ring
  · simp only [carried, if_neg carry, if_neg (Int.not_lt.mpr high.le), toRat?]

theorem Representable.exists_nat
    {number : ℚ} (representable : Representable number) (nonneg : 0 ≤ number) :
    ∃ (significand : Nat) (exponent : Int), significand < 2 * fullSignificand ∧
      leastExponent ≤ exponent ∧ exponent < greatestExponent ∧
      number = significand * 2 ^ exponent := by
  obtain ⟨significand, exponent, short, low, high, rfl⟩ := representable
  have unsigned : 0 ≤ significand := by
    have factor : (0 : ℚ) ≤ significand := nonneg_of_mul_nonneg_left nonneg (by positivity)
    exact_mod_cast factor
  lift significand to Nat using unsigned
  exact ⟨significand, exponent, short, low, high, by rw [Int.cast_natCast]⟩

/-- Rounding keeps what can be represented. -/
theorem toRat?_round
    {numerator denominator : Nat} (negative : Bool) (positive : 0 < denominator)
    (representable : Representable (numerator / denominator)) :
    (round negative numerator denominator).toRat? =
      some (if negative then -(numerator / denominator : ℚ) else numerator / denominator) := by
  by_cases zero : numerator = 0
  · subst zero
    simp [round, toRat?, signed]
  obtain ⟨significand, exponent, short, low, high, value⟩ :=
    representable.exists_nat (div_nonneg (Nat.cast_nonneg _) (Nat.cast_nonneg _))
  let place := exponentOf numerator denominator
  have bounded : place ≤ exponent := by
    apply exponentOf_le zero positive low
    calc
      (numerator : ℚ) / denominator = significand * 2 ^ exponent := value
      _ < 2 ^ (53 : Int) * 2 ^ exponent := by
        gcongr
        exact_mod_cast short
      _ = 2 ^ (exponent + 53) := by rw [← zpow_add₀ two_ne_zero, add_comm]
  -- The significand is shifted to the place at which it is rounded, which drops no bit.
  let shifted := significand * 2 ^ (exponent - place).toNat
  have shiftedValue : (shifted : ℚ) * 2 ^ place = numerator / denominator := by
    rw [value, Nat.cast_mul, Nat.cast_pow, Nat.cast_ofNat, mul_assoc, two_pow_toNat_mul bounded]
  have rounded := nearestQuotient_scaleFraction positive shiftedValue
  rw [toRat?_round_of_nearest negative zero rounded (bounded.trans_lt high), ← shiftedValue]
  cases negative
  · simp [signed, place]
  · simp [signed, place]

theorem toRat?_neg {number : Binary64} {value : ℚ} (known : number.toRat? = some value) :
    number.neg.toRat? = some (-value) := by
  cases number with
  | nan => cases known
  | infinity => cases known
  | finite negative significand exponent =>
      cases known
      cases negative <;> simp [neg, toRat?, signed]

theorem Representable.neg {number : ℚ} (representable : Representable number) :
    Representable (-number) := by
  obtain ⟨significand, exponent, short, low, high, rfl⟩ := representable
  refine ⟨-significand, exponent, ?_, low, high, ?_⟩
  · rwa [Int.natAbs_neg]
  · rw [Int.cast_neg, neg_mul]

theorem signed_natAbs (number : Int) : signed (decide (number < 0)) number.natAbs = number := by
  unfold signed
  split
  next negative =>
    have below := of_decide_eq_true negative
    omega
  next positive =>
    have above := of_decide_eq_false (Bool.eq_false_of_not_eq_true positive)
    omega

/-- A power of two is multiplied exactly. -/
theorem toRat?_round_scaleFraction
    {negative : Bool} {number : Nat} {power : Int}
    (representable : Representable (signed negative number * 2 ^ power)) :
    (round negative (scaleFraction 2 number 1 power).1 (scaleFraction 2 number 1 power).2).toRat? =
      some ((signed negative number : ℚ) * 2 ^ power) := by
  have value := scaleFraction_two number 1 power
  rw [Nat.cast_one, div_one] at value
  have magnitude : Representable (number * 2 ^ power) := by
    cases negative with
    | false => simpa [signed] using representable
    | true => simpa [signed] using representable.neg
  rw [toRat?_round negative (scaleFraction_two_pos number Nat.one_pos power) (value ▸ magnitude),
    value]
  cases negative with
  | false => simp [signed]
  | true => simp [signed]

theorem toRat?_ofDyadic
    {number exponent : Int} (representable : Representable (number * 2 ^ exponent)) :
    (ofDyadic number exponent).toRat? = some ((number : ℚ) * 2 ^ exponent) := by
  have parts : (number : ℚ) = signed (decide (number < 0)) number.natAbs := by
    rw [signed_natAbs]
  rw [parts] at representable ⊢
  exact toRat?_round_scaleFraction representable

theorem toRat?_add
    {left right : Binary64} {leftValue rightValue : ℚ}
    (leftKnown : left.toRat? = some leftValue) (rightKnown : right.toRat? = some rightValue)
    (representable : Representable (leftValue + rightValue)) :
    (left.add right).toRat? = some (leftValue + rightValue) := by
  rcases left with _ | _ | ⟨leftNegative, leftSignificand, leftExponent⟩
  · cases leftKnown
  · cases leftKnown
  rcases right with _ | _ | ⟨rightNegative, rightSignificand, rightExponent⟩
  · cases rightKnown
  · cases rightKnown
  cases leftKnown
  cases rightKnown
  let exponent := min leftExponent rightExponent
  let sum : Int :=
    signed leftNegative leftSignificand * Nat.pow 2 (leftExponent - exponent).toNat +
      signed rightNegative rightSignificand * Nat.pow 2 (rightExponent - exponent).toNat
  have value : (sum : ℚ) * 2 ^ exponent =
      signed leftNegative leftSignificand * 2 ^ leftExponent +
        signed rightNegative rightSignificand * 2 ^ rightExponent := by
    rw [← two_pow_toNat_mul (min_le_left leftExponent rightExponent),
      ← two_pow_toNat_mul (min_le_right leftExponent rightExponent)]
    simp only [sum, exponent, Nat.pow_eq]
    push_cast
    ring
  have unfolded : (finite leftNegative leftSignificand leftExponent).add
      (finite rightNegative rightSignificand rightExponent) =
      if sum = 0 then .finite (leftNegative && rightNegative) 0 leastExponent
      else ofDyadic sum exponent := rfl
  rw [← value] at representable ⊢
  rw [unfolded]
  by_cases opposite : sum = 0
  · rw [if_pos opposite, opposite]
    simp [toRat?, signed]
  · rw [if_neg opposite]
    exact toRat?_ofDyadic representable

theorem toRat?_sub
    {left right : Binary64} {leftValue rightValue : ℚ}
    (leftKnown : left.toRat? = some leftValue) (rightKnown : right.toRat? = some rightValue)
    (representable : Representable (leftValue - rightValue)) :
    (left.sub right).toRat? = some (leftValue - rightValue) := by
  rw [sub_eq_add_neg] at representable ⊢
  exact toRat?_add leftKnown (toRat?_neg rightKnown) representable

theorem toRat?_scale
    {number : Binary64} {value : ℚ} (factor : Nat) (known : number.toRat? = some value)
    (representable : Representable (factor * value)) :
    (number.scale factor).toRat? = some (factor * value) := by
  rcases number with _ | _ | ⟨negative, significand, exponent⟩
  · cases known
  · cases known
  cases known
  have product : (factor : ℚ) * (signed negative significand * 2 ^ exponent) =
      signed negative (factor * significand) * 2 ^ exponent := by
    cases negative <;> simp [signed, mul_assoc]
  rw [product] at representable ⊢
  exact toRat?_round_scaleFraction representable

/-- A number that is not negative is truncated to its floor. -/
theorem truncate?_of_nonneg
    {number : Binary64} {value : ℚ} (known : number.toRat? = some value) (nonneg : 0 ≤ value) :
    number.truncate? = some ⌊value⌋ := by
  rcases number with _ | _ | ⟨negative, significand, exponent⟩
  · cases known
  · cases known
  cases known
  have unsigned : ∀ magnitude : Nat, (significand = 0 → magnitude = 0) →
      signed negative magnitude = magnitude := by
    intro magnitude vanishes
    cases negative with
    | false => rfl
    | true =>
        have zero : significand = 0 := by
          have product : (0 : ℚ) ≤ -significand * 2 ^ exponent := by
            simpa only [signed, if_true, Int.cast_neg, Int.cast_natCast] using nonneg
          have opposite := nonneg_of_mul_nonneg_left product (by positivity)
          exact_mod_cast le_antisymm (neg_nonneg.mp opposite) (Nat.cast_nonneg significand)
        rw [vanishes zero]
        rfl
  have fraction := scaleFraction_two significand 1 exponent
  rw [Nat.cast_one, div_one] at fraction
  have quotient : signed negative
      ((scaleFraction 2 significand 1 exponent).1 / (scaleFraction 2 significand 1 exponent).2) =
      ⌊(significand : ℚ) * 2 ^ exponent⌋ := by
    rw [← fraction, Rat.floor_natCast_div_natCast]
    apply unsigned
    intro zero
    simp [scaleFraction, zero]
  rw [unsigned significand id]
  exact congrArg some quotient

end Binary64

end Chip8.Numeric
