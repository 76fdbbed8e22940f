import Chip8.Proofs.Text.Numeral
import Mathlib
/-!
Rows of digits and the numbers that they stand for.  Underscores between the
digits, zeros in front of them and the size of their letters make no
difference, and the digits of a number in a base stand for that number.
-/

namespace Chip8.Text

/-- Digits, and the same digits with single underscores between some of them. -/
inductive Underscored : List Char → List Char → Prop where
  | single (digit : Char) : Underscored [digit] [digit]
  | next {digits spelled : List Char} (digit : Char) :
      Underscored digits spelled → Underscored (digits ++ [digit]) (spelled ++ [digit])
  | gap {digits spelled : List Char} (digit : Char) :
      Underscored digits spelled → Underscored (digits ++ [digit]) (spelled ++ ['_', digit])

def AreDigits (base : Nat) (digits : List Char) : Prop :=
  ∀ digit ∈ digits, (digitIn? base digit).isSome

/-- The number that a row of digits stands for. -/
def rowValue (base : Nat) (digits : List Char) : Nat :=
  digits.foldl (fun value digit => value * base + (digitIn? base digit).getD 0) 0

section Underscores

variable {base : Nat} {digits spelled : List Char}

theorem areDigits_append_singleton {digit : Char} :
    AreDigits base (digits ++ [digit]) ↔
      AreDigits base digits ∧ ∃ value, digitIn? base digit = some value := by
  rw [AreDigits, List.forall_mem_append, List.forall_mem_singleton, Option.isSome_iff_exists]
  rfl

theorem rowValue_append_singleton {digit : Char} {value : Nat}
    (read : digitIn? base digit = some value) :
    rowValue base (digits ++ [digit]) = rowValue base digits * base + value := by
  rw [rowValue, List.foldl_append, List.foldl_cons, List.foldl_nil, read]
  rfl

namespace Underscored

theorem refl (nonempty : digits ≠ []) : Underscored digits digits := by
  induction digits using List.reverseRecOn with
  | nil => exact absurd rfl nonempty
  | append_singleton front last inductionHypothesis =>
      by_cases more : front = []
      · subst more
        exact .single last
      · exact .next last (inductionHypothesis more)

/-- Digits with underscores between them are a numeral for the number of the digits alone. -/
theorem numeral (underscored : Underscored digits spelled) (all : AreDigits base digits) :
    Numeral base spelled (rowValue base digits) := by
  induction underscored with
  | single digit =>
      obtain ⟨value, read⟩ := Option.isSome_iff_exists.mp (all digit List.mem_cons_self)
      have same : rowValue base [digit] = value := by simp [rowValue, read]
      rw [same]
      exact .digit read
  | next digit _ inductionHypothesis =>
      obtain ⟨others, value, read⟩ := areDigits_append_singleton.mp all
      rw [rowValue_append_singleton read]
      exact .next (inductionHypothesis others) read
  | gap digit _ inductionHypothesis =>
      obtain ⟨others, value, read⟩ := areDigits_append_singleton.mp all
      rw [rowValue_append_singleton read]
      exact .gap (inductionHypothesis others) read

theorem filter_eq (underscored : Underscored digits spelled) (all : AreDigits base digits) :
    spelled.filter (· != '_') = digits := by
  have kept {digit : Char} {value : Nat} (read : digitIn? base digit = some value) :
      [digit].filter (· != '_') = [digit] := by
    have other := ne_of_digitIn? read digitIn?_underscore
    simp [other]
  induction underscored with
  | single digit =>
      obtain ⟨value, read⟩ := Option.isSome_iff_exists.mp (all digit List.mem_cons_self)
      exact kept read
  | next digit _ inductionHypothesis | gap digit _ inductionHypothesis =>
      obtain ⟨others, value, read⟩ := areDigits_append_singleton.mp all
      rw [List.filter_append, inductionHypothesis others]
      exact congrArg _ (kept read)

end Underscored

end Underscores

section Digits

variable {base : Nat}

/-- What holds of the digits of a base holds of the digits of a number. -/
theorem forall_mem_toDigits
    {property : Char → Prop} (large : 1 < base)
    (all : ∀ digit < base, property (Nat.digitChar digit)) (value : Nat) :
    ∀ character ∈ Nat.toDigits base value, property character := by
  induction value using Nat.strongRecOn with
  | ind value inductionHypothesis =>
      by_cases single : value < base
      · rw [Nat.toDigits_of_lt_base single, List.forall_mem_singleton]
        exact all value single
      · rw [not_lt] at single
        rw [Nat.toDigits_of_base_le large single, List.forall_mem_append,
          List.forall_mem_singleton]
        have smaller : value / base < value := Nat.div_lt_self (by omega) large
        exact ⟨inductionHypothesis _ smaller, all _ (Nat.mod_lt _ (by omega))⟩

theorem digitIn?_digitChar {digit : Nat} (inside : digit < base) (known : base ≤ 16) :
    digitIn? base (Nat.digitChar digit) = some digit := by
  have digits : ∀ digit < 16, (decimalDigit? (Nat.digitChar digit)).or
      (letterDigit? (Nat.digitChar digit)) = some digit := by
    decide
  rw [digitIn?, digits digit (by omega), Option.filter_some, if_pos (by simpa using inside)]

theorem areDigits_toDigits (large : 1 < base) (known : base ≤ 16) (value : Nat) :
    AreDigits base (Nat.toDigits base value) := by
  refine forall_mem_toDigits large (fun digit inside => ?_) value
  rw [digitIn?_digitChar inside known]
  rfl

theorem rowValue_toDigits (large : 1 < base) (known : base ≤ 16) (value : Nat) :
    rowValue base (Nat.toDigits base value) = value := by
  induction value using Nat.strongRecOn with
  | ind value inductionHypothesis =>
      by_cases single : value < base
      · rw [Nat.toDigits_of_lt_base single]
        simp [rowValue, digitIn?_digitChar single known]
      · rw [not_lt] at single
        have smaller : value / base < value := Nat.div_lt_self (by omega) large
        have last := digitIn?_digitChar (Nat.mod_lt value (by omega)) known
        rw [Nat.toDigits_of_base_le large single, rowValue_append_singleton last,
          inductionHypothesis _ smaller]
        exact Nat.div_add_mod' value base

end Digits

/-- A capital letter is the same digit as the small one. -/
theorem digitIn?_toLower (base : Nat) (character : Char) :
    digitIn? base character.toLower = digitIn? base character := by
  by_cases capital : 'A' ≤ character ∧ character ≤ 'Z'
  · have capitals : ∀ code < 26,
        decimalDigit? (Char.ofNat (65 + code)).toLower = decimalDigit? (Char.ofNat (65 + code)) ∧
        letterDigit? (Char.ofNat (65 + code)).toLower = letterDigit? (Char.ofNat (65 + code)) := by
      decide
    have first : 65 ≤ character.toNat := capital.1
    have last : character.toNat ≤ 90 := capital.2
    obtain ⟨decimal, letter⟩ := capitals (character.toNat - 65) (by omega)
    rw [Nat.add_sub_cancel' first, Char.ofNat_toNat] at decimal letter
    rw [digitIn?, decimal, letter, digitIn?]
  · have kept : character.toLower = character := dif_neg capital
    rw [kept]

theorem rowValue_map_toLower (base : Nat) (digits : List Char) :
    rowValue base (digits.map Char.toLower) = rowValue base digits := by
  simp only [rowValue, List.foldl_map, digitIn?_toLower]

theorem areDigits_map_toLower {base : Nat} {digits : List Char} :
    AreDigits base (digits.map Char.toLower) ↔ AreDigits base digits := by
  simp only [AreDigits, List.forall_mem_map, digitIn?_toLower]

theorem rowValue_replicate_append (count : Nat) (digits : List Char) :
    rowValue 16 (List.replicate count '0' ++ digits) = rowValue 16 digits := by
  induction count with
  | zero => rfl
  | succ count inductionHypothesis => exact inductionHypothesis

theorem areDigits_replicate_append {digits : List Char} (all : AreDigits 16 digits) (count : Nat) :
    AreDigits 16 (List.replicate count '0' ++ digits) := by
  refine List.forall_mem_append.mpr ⟨?_, all⟩
  intro zero member
  rw [List.eq_of_mem_replicate member]
  rfl

end Chip8.Text
