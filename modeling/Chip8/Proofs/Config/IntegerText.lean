import Chip8.Proofs.Config.Reading
import Chip8.Proofs.Text.DigitRow
import Chip8.Text.Hex
import Mathlib
/-!
Integers written as text and read back.  Any integer is read back from its
decimal text, unless that has too many digits, and a natural number from its
hexadecimal digits behind the mark, whatever letters they are written in and
however many zeros stand in front.  Underscores between the digits make no
difference, nor do blanks around the decimal text.
-/

namespace Chip8

namespace Text

/-- What stands in front of the decimal digits of an integer. -/
def minus (value : Int) : List Char :=
  if value < 0 then ['-'] else []

section Decimal

variable {value : Int} {before spelled after : List Char}

theorem sign_minus (value : Int) : Sign (minus value) (decide (value < 0)) := by
  by_cases negative : value < 0
  · rw [minus, if_pos negative, decide_eq_true negative]
    exact .minus
  · rw [minus, if_neg negative, decide_eq_false negative]
    exact .none

theorem withSign_natAbs (value : Int) : withSign (decide (value < 0)) value.natAbs = value := by
  by_cases negative : value < 0
  · rw [decide_eq_true negative]
    have size : (value.natAbs : Int) = -value := Int.ofNat_natAbs_of_nonpos negative.le
    exact (congrArg Neg.neg size).trans (Int.neg_neg value)
  · rw [decide_eq_false negative]
    exact Int.natAbs_of_nonneg (not_lt.mp negative)

theorem toList_toString (value : Int) :
    (toString value).toList = minus value ++ Nat.toDigits 10 value.natAbs := by
  cases value with
  | ofNat number =>
      have nonneg : ¬ Int.ofNat number < 0 := Int.not_lt.mpr (Int.natCast_nonneg number)
      rw [minus, if_neg nonneg]
      exact Nat.toList_repr
  | negSucc number =>
      have text : toString (Int.negSucc number) = "-" ++ Nat.repr (number + 1) := rfl
      rw [minus, if_pos (Int.negSucc_lt_zero number), text, String.toList_append, Nat.toList_repr]
      rfl

/-- An integer can be shown if its decimal digits are not too many to be read. -/
theorem canShow_iff :
    canShow value = true ↔ (Nat.toDigits 10 value.natAbs).length ≤ decimalDigitLimit := by
  rw [Nat.length_toDigits_le_iff (by decide) (by decide), canShow, decide_eq_true_eq, Nat.pow_eq]

theorem numeral_decimal (underscored : Underscored (Nat.toDigits 10 value.natAbs) spelled) :
    Numeral 10 spelled value.natAbs := by
  have numeral := underscored.numeral (areDigits_toDigits (by decide) (by decide) _)
  rw [rowValue_toDigits (by decide) (by decide)] at numeral
  exact numeral

/-- The decimal text of an integer, with underscores and blanks, stands for the integer. -/
theorem writes_decimal
    (showable : canShow value = true) (beforeBlank : AllBlank before) (afterBlank : AllBlank after)
    (underscored : Underscored (Nat.toDigits 10 value.natAbs) spelled) :
    Writes (String.ofList (before ++ (minus value ++ spelled) ++ after)) value := by
  have short : (spelled.filter (· != '_')).length ≤ decimalDigitLimit := by
    rw [underscored.filter_eq (areDigits_toDigits (by decide) (by decide) _)]
    exact canShow_iff.mp showable
  have writes := Writes.decimal String.toList_ofList beforeBlank afterBlank (sign_minus value)
    (numeral_decimal underscored) short
  rw [withSign_natAbs] at writes
  exact writes

theorem writes_toString (showable : canShow value = true) : Writes (toString value) value := by
  have same : toString value =
      String.ofList ([] ++ (minus value ++ Nat.toDigits 10 value.natAbs) ++ []) := by
    rw [List.nil_append, List.append_nil, ← toList_toString, String.ofList_toList]
  rw [same]
  exact writes_decimal showable (List.forall_mem_nil _) (List.forall_mem_nil _)
    (.refl Nat.toDigits_ne_nil)

/-- Of more digits the reader makes nothing. -/
theorem readInteger?_toString_of_long (long : canShow value = false) :
    readInteger? (toString value) = none := by
  have blank : AllBlank [] := List.forall_mem_nil _
  have digits : Numeral 10 (Nat.toDigits 10 value.natAbs) value.natAbs :=
    numeral_decimal (.refl Nat.toDigits_ne_nil)
  have text := toList_toString value
  rw [← List.append_nil (minus value ++ _), ← List.nil_append (minus value ++ _)] at text
  have unmarked : ¬ ['0', 'x'].isPrefixOf (toString value).toList := by
    intro marked
    obtain ⟨rest, same⟩ := List.isPrefixOf_iff_prefix.mp marked
    apply mark_not_mem blank blank (sign_minus value) digits
    rw [← text, ← same]
    simp
  have many : ¬ ((Nat.toDigits 10 value.natAbs).filter (· != '_')).length ≤ decimalDigitLimit := by
    have all := areDigits_toDigits (by decide : 1 < 10) (by decide) value.natAbs
    rw [(Underscored.refl Nat.toDigits_ne_nil).filter_eq all, ← canShow_iff, long]
    decide
  rw [readInteger?, if_neg unmarked]
  simp only [readDecimal?, text, trimBlanks_number blank blank (sign_minus value) digits,
    splitSign_append (sign_minus value) digits, if_neg many]

end Decimal

section Hexadecimal

variable {value : Nat} {digits spelled : List Char}

/-- The hexadecimal digits of a number behind the mark stand for the number. -/
theorem writes_hexadecimal
    (zeros : Nat) (same : digits.map Char.toLower = Nat.toDigits 16 value)
    (underscored : Underscored (List.replicate zeros '0' ++ digits) spelled) :
    Writes (String.ofList ('0' :: 'x' :: spelled)) value := by
  have all : AreDigits 16 digits := by
    rw [← areDigits_map_toLower, same]
    exact areDigits_toDigits (by decide) (by decide) value
  have number : rowValue 16 (List.replicate zeros '0' ++ digits) = value := by
    rw [rowValue_replicate_append, ← rowValue_map_toLower, same,
      rowValue_toDigits (by decide) (by decide)]
  have numeral := underscored.numeral (areDigits_replicate_append all zeros)
  rw [number] at numeral
  refine .hexadecimal ?_ (.inl rfl) (List.forall_mem_nil _) numeral
  rw [String.toList_ofList, List.append_nil]
  rfl

theorem map_toLower_digits (layout : HexLayout) (value : Nat) :
    (layout.digits value).map Char.toLower = Nat.toDigits 16 value := by
  have small : ∀ digit < 16, (Nat.digitChar digit).toLower = Nat.digitChar digit ∧
      (Nat.digitChar digit).toUpper.toLower = Nat.digitChar digit := by
    decide
  have lowered : ∀ character ∈ Nat.toDigits 16 value,
      (layout.letter character).toLower = character := by
    refine forall_mem_toDigits (by decide) (fun digit inside => ?_) value
    rw [HexLayout.letter]
    split
    · exact (small digit inside).2
    · exact (small digit inside).1
  rw [HexLayout.digits, List.map_map]
  exact (List.map_congr_left lowered).trans (List.map_id _)

/-- A number that is shown with its mark is read back. -/
theorem writes_render {layout : HexLayout} (marked : layout.marked = true) (value : Nat) :
    Writes (layout.render value) value := by
  have unsigned : ¬ (value : Int) < 0 := Int.not_lt.mpr (Int.natCast_nonneg value)
  have lead : layout.lead value = ['0', 'x'] := by
    rw [HexLayout.lead, if_neg unsigned, if_pos marked]
    rfl
  have nonempty (zeros : Nat) : List.replicate zeros '0' ++ layout.digits value ≠ [] := by
    refine List.append_ne_nil_of_right_ne_nil _ ?_
    exact mt List.map_eq_nil_iff.mp Nat.toDigits_ne_nil
  rw [HexLayout.render, HexLayout.characters, lead, Int.natAbs_natCast, List.append_assoc]
  exact writes_hexadecimal _ (map_toLower_digits layout value) (.refl (nonempty _))

end Hexadecimal

end Text

namespace Config

theorem integerOf_text {string : String} {value : Int} (writes : Text.Writes string value) :
    integerOf (.scalar (.text string)) = .ok value :=
  integerOf_eq_ok_iff.mpr (.text writes)

/-- How an integer is read back from the number and from its texts. -/
structure IntegerTextLaw (value : Int) : Prop where
  number : integerOf (.scalar (.integer value)) = .ok value
  decimal : Text.canShow value = true →
    integerOf (.scalar (.text (Scalar.integer value).plain)) = .ok value
  /-- A decimal text of too many digits is refused. -/
  limit : Text.canShow value = false →
    integerOf (.scalar (.text (Scalar.integer value).plain)) = .error .integerText
  /-- Blanks may stand around the decimal text, and single underscores between its digits. -/
  spelled : Text.canShow value = true → ∀ before spelled after : List Char,
    Text.AllBlank before → Text.AllBlank after →
    Text.Underscored (Nat.toDigits 10 value.natAbs) spelled →
    integerOf (.scalar (.text
      (String.ofList (before ++ (Text.minus value ++ spelled) ++ after)))) = .ok value
  /-- The letters may be of either size, and any number of zeros may stand in front. -/
  hexadecimal : 0 ≤ value → ∀ (zeros : Nat) (digits spelled : List Char),
    digits.map Char.toLower = Nat.toDigits 16 value.natAbs →
    Text.Underscored (List.replicate zeros '0' ++ digits) spelled →
    integerOf (.scalar (.text (String.ofList ('0' :: 'x' :: spelled)))) = .ok value
  printed : 0 ≤ value → ∀ layout : Text.HexLayout, layout.marked = true →
    integerOf (.scalar (.text (layout.render value))) = .ok value

theorem integerTextLaw (value : Int) : IntegerTextLaw value where
  number := rfl
  decimal showable := integerOf_text (Text.writes_toString showable)
  limit long := by
    have unread := Text.readInteger?_toString_of_long long
    simp only [integerOf, Scalar.plain, Text.toString?_ofString, Option.bind_some, unread]
  spelled showable _ _ _ beforeBlank afterBlank underscored :=
    integerOf_text (Text.writes_decimal showable beforeBlank afterBlank underscored)
  hexadecimal nonneg zeros digits spelled same underscored := by
    lift value to Nat using nonneg
    exact integerOf_text (Text.writes_hexadecimal zeros same underscored)
  printed nonneg layout marked := by
    lift value to Nat using nonneg
    exact integerOf_text (Text.writes_render marked value)

end Config

end Chip8
