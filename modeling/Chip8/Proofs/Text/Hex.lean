import Chip8.Text.Hex
import Chip8.Word
import Mathlib
/-!
Hexadecimal text of a fixed length.  A number that fits in the width of its
layout is written with its mark and exactly as many digits as are left, zeros
in front included; so the digits of a number made of two parts are those of
the parts.
-/

namespace Chip8.Text.HexLayout

/-- The last digits of a number, as many as are asked for. -/
def lastDigits (layout : HexLayout) : (count : Nat) → (value : Nat) → List Char
  | 0, _ => []
  | count + 1, value =>
      layout.lastDigits count (value / 16) ++ [layout.letter (Nat.digitChar (value % 16))]

@[simp]
theorem letter_zero (layout : HexLayout) : layout.letter '0' = '0' := by
  unfold letter
  split <;> decide

theorem lastDigits_zero (layout : HexLayout) (count : Nat) :
    layout.lastDigits count 0 = List.replicate count '0' := by
  induction count with
  | zero => rfl
  | succ count inductionHypothesis =>
      have last : layout.letter (Nat.digitChar (0 % 16)) = '0' := layout.letter_zero
      rw [lastDigits, Nat.zero_div, inductionHypothesis, last, List.replicate_succ']

/-- Of a layout, only the letters matter to the last digits. -/
theorem lastDigits_of_capitals
    {left right : HexLayout} (same : left.capitals = right.capitals) (count value : Nat) :
    left.lastDigits count value = right.lastDigits count value := by
  induction count generalizing value with
  | zero => rfl
  | succ count inductionHypothesis =>
      rw [lastDigits, lastDigits, inductionHypothesis, letter, letter, same]

/-- The digits of a number of two parts are those of the parts. -/
theorem lastDigits_append
    (layout : HexLayout) (count further high : Nat) {low : Nat} (small : low < 16 ^ further) :
    layout.lastDigits (count + further) (16 ^ further * high + low) =
      layout.lastDigits count high ++ layout.lastDigits further low := by
  induction further generalizing low with
  | zero =>
      rw [Nat.lt_one_iff.mp small]
      simp [lastDigits]
  | succ further inductionHypothesis =>
      have room : low / 16 < 16 ^ further := by
        rw [Nat.div_lt_iff_lt_mul (by decide), ← Nat.pow_succ]
        exact small
      have front : (16 ^ (further + 1) * high + low) / 16 = 16 ^ further * high + low / 16 := by
        rw [Nat.pow_succ', Nat.mul_assoc, Nat.mul_add_div (by decide)]
      have last : (16 ^ (further + 1) * high + low) % 16 = low % 16 := by
        rw [Nat.pow_succ', Nat.mul_assoc, Nat.mul_add_mod]
      rw [← Nat.add_assoc, lastDigits, front, last, inductionHypothesis room, lastDigits,
        List.append_assoc]

/-- Zeros in front of the digits of a number make them its last digits. -/
theorem replicate_append_digits
    (layout : HexLayout) {count value : Nat} (positive : 0 < count) (small : value < 16 ^ count) :
    List.replicate (count - (layout.digits value).length) '0' ++ layout.digits value =
      layout.lastDigits count value := by
  -- the last digit is split off; the zeros are already in front of what is left
  induction count generalizing value with
  | zero => cases positive
  | succ count inductionHypothesis =>
      by_cases single : value < 16
      · have alone : layout.digits value = [layout.letter (Nat.digitChar value)] := by
          rw [digits, Nat.toDigits_of_lt_base single]
          rfl
        have front : value / 16 = 0 := Nat.div_eq_of_lt single
        rw [lastDigits, front, lastDigits_zero, Nat.mod_eq_of_lt single, alone]
        rfl
      · have longer : layout.digits value =
            layout.digits (value / 16) ++ [layout.letter (Nat.digitChar (value % 16))] := by
          rw [digits, Nat.toDigits_of_base_le (by decide) (Nat.not_lt.mp single), List.map_append]
          rfl
        have room : value / 16 < 16 ^ count := by
          rw [Nat.div_lt_iff_lt_mul (by decide), ← Nat.pow_succ]
          exact small
        have more : 0 < count := by
          by_contra none
          have zero : count = 0 := by omega
          subst zero
          omega
        have filling : count + 1 - (layout.digits value).length =
            count - (layout.digits (value / 16)).length := by
          rw [longer, List.length_append, List.length_singleton, Nat.add_sub_add_right]
        rw [filling, longer, ← List.append_assoc, inductionHypothesis more room, lastDigits]

/-- A number that fits in a layout is written with its mark and a fixed number of digits. -/
theorem characters_eq_lastDigits
    {layout : HexLayout} {count value : Nat} (positive : 0 < count) (small : value < 16 ^ count)
    (width : layout.width = (layout.lead 0).length + count) :
    layout.characters value = layout.lead 0 ++ layout.lastDigits count value := by
  have unsigned : layout.lead value = layout.lead 0 := by
    have nonneg : ¬ (value : Int) < 0 := by omega
    rw [lead, lead, if_neg nonneg, if_neg (Int.lt_irrefl 0)]
  have room : layout.width - (layout.lead 0).length = count := by omega
  rw [characters, unsigned, room, Int.natAbs_natCast, List.append_assoc,
    layout.replicate_append_digits positive small]

def byteText (value : UInt8) : String :=
  String.ofList (byte.lastDigits 2 value.toNat)

def addressText (address : Nat) : String :=
  String.ofList (cycleAddress.lastDigits 4 address)

theorem render_byte (value : UInt8) : byte.render value.toNat = byteText value :=
  congrArg String.ofList (characters_eq_lastDigits (Nat.succ_pos 1) value.toNat_lt rfl)

/-- The digits of a word are those of its two bytes. -/
theorem render_word (high low : UInt8) :
    word.render (Word.ofBytes high low) = byteText high ++ byteText low := by
  have small : 256 * high.toNat + low.toNat < 16 ^ 4 := by
    have highSmall := high.toNat_lt
    have lowSmall := low.toNat_lt
    omega
  have value : Word.ofBytes high low = ((256 * high.toNat + low.toNat : Nat) : Int) := by
    rw [Word.ofBytes]
    push_cast
    rfl
  have parts : word.lastDigits 4 (256 * high.toNat + low.toNat) =
      byte.lastDigits 2 high.toNat ++ byte.lastDigits 2 low.toNat :=
    word.lastDigits_append 2 2 high.toNat low.toNat_lt
  have written : word.characters ((256 * high.toNat + low.toNat : Nat) : Int) =
      word.lastDigits 4 (256 * high.toNat + low.toNat) :=
    characters_eq_lastDigits (Nat.succ_pos 3) small rfl
  rw [render, value, written, parts, String.ofList_append, byteText, byteText]

theorem render_cycleAddress {address : Nat} (small : address < 0x10000) :
    cycleAddress.render address = "0x" ++ addressText address := by
  have lead : "0x" = String.ofList (cycleAddress.lead 0) := rfl
  rw [render, characters_eq_lastDigits (Nat.succ_pos 3) small rfl, lead, String.ofList_append,
    addressText]

end Chip8.Text.HexLayout
