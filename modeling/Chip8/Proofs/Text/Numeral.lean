import Chip8.Text.Integer
import Mathlib
/-!
The texts that stand for integers.  A numeral is a row of digits with single
underscores between them.  An integer is written as a decimal numeral behind at
most one sign, with blanks around it and not too many digits, or as a
hexadecimal numeral of any length right behind the mark `0x`.  The reader takes
these texts, gives the integers they stand for, and takes no other text.
-/

namespace Chip8.Text

/-- Digits of a base with single underscores between them, and the number they stand for. -/
inductive Numeral (base : Nat) : List Char → Nat → Prop where
  | digit {character digit} :
      digitIn? base character = some digit → Numeral base [character] digit
  | next {characters value character digit} :
      Numeral base characters value → digitIn? base character = some digit →
      Numeral base (characters ++ [character]) (value * base + digit)
  | gap {characters value character digit} :
      Numeral base characters value → digitIn? base character = some digit →
      Numeral base (characters ++ ['_', character]) (value * base + digit)

/-- At most one sign, and whether it is a minus. -/
inductive Sign : List Char → Bool → Prop where
  | none : Sign [] false
  | plus : Sign ['+'] false
  | minus : Sign ['-'] true

def AllBlank (characters : List Char) : Prop :=
  ∀ character ∈ characters, isBlank character = true

/-- The text stands for the integer. -/
inductive Writes (text : String) : Int → Prop where
  | decimal {before sign digits after negative value} :
      text.toList = before ++ (sign ++ digits) ++ after → AllBlank before → AllBlank after →
      Sign sign negative → Numeral 10 digits value →
      (digits.filter (· != '_')).length ≤ decimalDigitLimit →
      Writes text (withSign negative value)
  | hexadecimal {gap digits after value} :
      text.toList = ['0', 'x'] ++ (gap ++ digits) ++ after → gap = [] ∨ gap = ['_'] →
      AllBlank after → Numeral 16 digits value → Writes text value

section Digits

variable {base digit value : Nat} {character : Char} {characters : List Char}

theorem digitIn?_eq_none
    (decimal : decimalDigit? character = none) (letter : letterDigit? character = none) :
    digitIn? base character = none := by
  rw [digitIn?, decimal, letter]
  rfl

def blankCodes : List Nat :=
  [9, 10, 11, 12, 13, 0x2000, 0x2001, 0x2002, 0x2003, 0x2004, 0x2005, 0x2006, 0x2007, 0x2008,
   0x2009, 0x200A, 0x20, 0x85, 0xA0, 0x1680, 0x2028, 0x2029, 0x202F, 0x205F, 0x3000]

theorem toNat_mem_blankCodes (blank : isBlank character = true) :
    character.toNat ∈ blankCodes := by
  simp only [isBlank, Bool.or_eq_true, Bool.and_eq_true, decide_eq_true_eq,
    List.contains_iff_mem] at blank
  simp only [blankCodes, List.mem_cons, List.not_mem_nil, or_false] at blank ⊢
  omega

/-- No blank is a digit of any base. -/
theorem digitIn?_blank (blank : isBlank character = true) : digitIn? base character = none := by
  have member := toNat_mem_blankCodes blank
  have noDecimal : ∀ code ∈ blankCodes,
      (digitZeros.find? fun first => first ≤ code && code ≤ first + 9) = none := by
    decide
  have noLetter : ∀ code ∈ blankCodes, code < 65 ∨ 122 < code := by decide
  apply digitIn?_eq_none
  · rw [decimalDigit?, noDecimal _ member]
    rfl
  · have outside := noLetter _ member
    have small : ¬ (97 ≤ character.toNat ∧ character.toNat ≤ 122) := by omega
    have capital : ¬ (65 ≤ character.toNat ∧ character.toNat ≤ 90) := by omega
    rw [letterDigit?]
    exact (if_neg small).trans (if_neg capital)

theorem digitIn?_underscore : digitIn? base '_' = none :=
  digitIn?_eq_none (by decide) (by decide)

theorem digitIn?_plus : digitIn? base '+' = none :=
  digitIn?_eq_none (by decide) (by decide)

theorem digitIn?_minus : digitIn? base '-' = none :=
  digitIn?_eq_none (by decide) (by decide)

theorem ne_of_digitIn? {other : Char} (read : digitIn? base character = some digit)
    (unread : digitIn? base other = none) : character ≠ other := by
  rintro rfl
  rw [unread] at read
  cases read

theorem not_isBlank_of_digitIn? (read : digitIn? base character = some digit) :
    isBlank character = false := by
  rw [Bool.eq_false_iff]
  intro blank
  rw [digitIn?_blank blank] at read
  cases read

theorem readMoreDigits?_cons
    (read : digitIn? base character = some digit) (value : Nat) (rest : List Char) :
    readMoreDigits? base value (character :: rest) =
      readMoreDigits? base (value * base + digit) rest := by
  have other := ne_of_digitIn? read digitIn?_underscore
  rw [readMoreDigits?.eq_3 base value character rest fun _ _ underscore _ => other underscore, read]
  rfl

theorem readMoreDigits?_gap
    (read : digitIn? base character = some digit) (value : Nat) (rest : List Char) :
    readMoreDigits? base value ('_' :: character :: rest) =
      readMoreDigits? base (value * base + digit) rest := by
  rw [readMoreDigits?]
  simp only [read]
  rfl

namespace Numeral

/-- After a numeral the reader goes on with its number. -/
theorem readDigits?_append (numeral : Numeral base characters value) (rest : List Char) :
    readDigits? base (characters ++ rest) = readMoreDigits? base value rest := by
  induction numeral generalizing rest with
  | digit read =>
      rw [List.singleton_append, readDigits?]
      simp only [read]
      rfl
  | next _ read inductionHypothesis =>
      rw [List.append_assoc, inductionHypothesis, List.singleton_append,
        readMoreDigits?_cons read]
  | gap _ read inductionHypothesis =>
      rw [List.append_assoc, inductionHypothesis]
      exact readMoreDigits?_gap read _ rest

theorem of_readMoreDigits?
    {rest : List Char} {total : Nat} (numeral : Numeral base characters value)
    (read : readMoreDigits? base value rest = some total) :
    Numeral base (characters ++ rest) total := by
  induction value, rest using readMoreDigits?.induct base generalizing characters with
  | case1 value =>
      cases read
      rw [List.append_nil]
      exact numeral
  | case2 value character rest inductionHypothesis =>
      rw [readMoreDigits?] at read
      obtain ⟨digit, first, others⟩ := Option.bind_eq_some_iff.mp read
      have further := inductionHypothesis digit (.gap numeral first) others
      rw [List.append_assoc] at further
      exact further
  | case3 value character rest single inductionHypothesis =>
      rw [readMoreDigits?.eq_3 base value character rest single] at read
      obtain ⟨digit, first, others⟩ := Option.bind_eq_some_iff.mp read
      have further := inductionHypothesis digit (.next numeral first) others
      rw [List.append_assoc] at further
      exact further

theorem readDigits?_eq_some_iff :
    readDigits? base characters = some value ↔ Numeral base characters value := by
  constructor
  · intro read
    cases characters with
    | nil => cases read
    | cons character rest =>
        obtain ⟨digit, first, others⟩ := Option.bind_eq_some_iff.mp read
        exact of_readMoreDigits? (.digit first) others
  · intro numeral
    have read := numeral.readDigits?_append []
    rw [List.append_nil] at read
    exact read

/-- A numeral begins with a digit. -/
theorem exists_first (numeral : Numeral base characters value) :
    ∃ first rest digit, characters = first :: rest ∧ digitIn? base first = some digit := by
  induction numeral with
  | digit read => exact ⟨_, [], _, rfl, read⟩
  | next _ _ inductionHypothesis | gap _ _ inductionHypothesis =>
      obtain ⟨first, rest, digit, rfl, read⟩ := inductionHypothesis
      exact ⟨first, _, digit, rfl, read⟩

/-- A numeral ends in a digit. -/
theorem exists_last (numeral : Numeral base characters value) :
    ∃ front last digit, characters = front ++ [last] ∧ digitIn? base last = some digit := by
  cases numeral with
  | digit read => exact ⟨[], _, _, rfl, read⟩
  | next _ read => exact ⟨_, _, _, rfl, read⟩
  | gap _ read => exact ⟨_ ++ ['_'], _, _, by rw [List.append_assoc]; rfl, read⟩

theorem underscore_or_digit
    (numeral : Numeral base characters value) (member : character ∈ characters) :
    character = '_' ∨ ∃ digit, digitIn? base character = some digit := by
  induction numeral with
  | digit read =>
      obtain rfl := List.mem_singleton.mp member
      exact .inr ⟨_, read⟩
  | next _ read inductionHypothesis =>
      rcases List.mem_append.mp member with earlier | last
      · exact inductionHypothesis earlier
      · obtain rfl := List.mem_singleton.mp last
        exact .inr ⟨_, read⟩
  | gap _ read inductionHypothesis =>
      rcases List.mem_append.mp member with earlier | last
      · exact inductionHypothesis earlier
      · rcases List.mem_pair.mp last with rfl | rfl
        · exact .inl rfl
        · exact .inr ⟨_, read⟩

end Numeral

end Digits

section Blanks

variable {before core after characters : List Char}

theorem trimBlanks_eq_rdropWhile (characters : List Char) :
    trimBlanks characters = (characters.dropWhile isBlank).rdropWhile isBlank := rfl

/-- What is trimmed off is blank. -/
theorem exists_trimBlanks (characters : List Char) :
    ∃ before after, characters = before ++ trimBlanks characters ++ after ∧
      AllBlank before ∧ AllBlank after := by
  refine ⟨characters.takeWhile isBlank, (characters.dropWhile isBlank).rtakeWhile isBlank, ?_,
    fun _ => List.mem_takeWhile_imp, fun _ => List.mem_rtakeWhile_imp⟩
  rw [trimBlanks_eq_rdropWhile, List.append_assoc, List.rdropWhile_append_rtakeWhile,
    List.takeWhile_append_dropWhile]

theorem rdropWhile_isBlank_append
    (afterBlank : AllBlank after)
    (last : ∃ front character, core = front ++ [character] ∧ isBlank character = false) :
    (core ++ after).rdropWhile isBlank = core := by
  obtain ⟨front, character, rfl, unblank⟩ := last
  have blanks : AllBlank after.reverse := fun _ member => afterBlank _ (List.mem_reverse.mp member)
  rw [List.rdropWhile, List.reverse_append, List.dropWhile_append_of_pos blanks,
    List.reverse_append, List.reverse_singleton, List.singleton_append,
    List.dropWhile_cons_of_neg (Bool.eq_false_iff.mp unblank), List.reverse_cons,
    List.reverse_reverse]

/-- What neither begins nor ends with a blank is kept. -/
theorem trimBlanks_append
    (beforeBlank : AllBlank before) (afterBlank : AllBlank after)
    (first : ∃ character rest, core = character :: rest ∧ isBlank character = false)
    (last : ∃ front character, core = front ++ [character] ∧ isBlank character = false) :
    trimBlanks (before ++ core ++ after) = core := by
  have front : (before ++ core ++ after).dropWhile isBlank = core ++ after := by
    obtain ⟨character, rest, rfl, unblank⟩ := first
    rw [List.append_assoc, List.dropWhile_append_of_pos beforeBlank, List.cons_append,
      List.dropWhile_cons_of_neg (Bool.eq_false_iff.mp unblank)]
  rw [trimBlanks_eq_rdropWhile, front, rdropWhile_isBlank_append afterBlank last]

end Blanks

section Integers

variable {text : String} {value : Int} {sign digits characters : List Char} {negative : Bool}

/-- The sign that is split off is what stands in front. -/
theorem sign_splitSign (characters : List Char) :
    ∃ sign, characters = sign ++ (splitSign characters).2 ∧ Sign sign (splitSign characters).1 := by
  unfold splitSign
  split
  · exact ⟨['-'], rfl, .minus⟩
  · exact ⟨['+'], rfl, .plus⟩
  · exact ⟨[], rfl, .none⟩

theorem splitSign_append {number : Nat}
    (signed : Sign sign negative) (numeral : Numeral 10 digits number) :
    splitSign (sign ++ digits) = (negative, digits) := by
  obtain ⟨first, rest, digit, rfl, read⟩ := numeral.exists_first
  cases signed with
  | none =>
      have noPlus := ne_of_digitIn? read digitIn?_plus
      have noMinus := ne_of_digitIn? read digitIn?_minus
      simp [splitSign, noPlus, noMinus]
  | plus | minus => rfl

theorem trimBlanks_number
    {before after : List Char} {number : Nat} (beforeBlank : AllBlank before)
    (afterBlank : AllBlank after) (signed : Sign sign negative)
    (numeral : Numeral 10 digits number) :
    trimBlanks (before ++ (sign ++ digits) ++ after) = sign ++ digits := by
  apply trimBlanks_append beforeBlank afterBlank
  · obtain ⟨first, rest, digit, rfl, read⟩ := numeral.exists_first
    cases signed with
    | none => exact ⟨first, rest, rfl, not_isBlank_of_digitIn? read⟩
    | plus => exact ⟨'+', first :: rest, rfl, by decide⟩
    | minus => exact ⟨'-', first :: rest, rfl, by decide⟩
  · obtain ⟨front, last, digit, rfl, read⟩ := numeral.exists_last
    exact ⟨sign ++ front, last, (List.append_assoc ..).symm, not_isBlank_of_digitIn? read⟩

/-- The letter of the mark is found in no decimal text. -/
theorem mark_not_mem
    {before after : List Char} {number : Nat} (beforeBlank : AllBlank before)
    (afterBlank : AllBlank after) (signed : Sign sign negative)
    (numeral : Numeral 10 digits number) :
    'x' ∉ before ++ (sign ++ digits) ++ after := by
  have unblank : isBlank 'x' = false := by decide
  have noDigit : digitIn? 10 'x' = none := by decide
  simp only [List.mem_append, not_or]
  refine ⟨⟨?_, ?_, ?_⟩, ?_⟩
  · exact fun member => Bool.eq_false_iff.mp unblank (beforeBlank _ member)
  · cases signed <;> decide
  · intro member
    rcases numeral.underscore_or_digit member with same | ⟨digit, read⟩
    · exact absurd same (by decide)
    · rw [noDigit] at read
      cases read
  · exact fun member => Bool.eq_false_iff.mp unblank (afterBlank _ member)

theorem readDecimal?_eq_some_iff :
    readDecimal? text = some value ↔
      ∃ before sign digits after negative number,
        text.toList = before ++ (sign ++ digits) ++ after ∧ AllBlank before ∧ AllBlank after ∧
        Sign sign negative ∧ Numeral 10 digits number ∧
        (digits.filter (· != '_')).length ≤ decimalDigitLimit ∧
        withSign negative number = value := by
  constructor
  · intro read
    obtain ⟨before, after, split, beforeBlank, afterBlank⟩ := exists_trimBlanks text.toList
    obtain ⟨sign, core, signed⟩ := sign_splitSign (trimBlanks text.toList)
    simp only [readDecimal?] at read
    split at read
    next short =>
      obtain ⟨number, digits, same⟩ := Option.map_eq_some_iff.mp read
      rw [core] at split
      exact ⟨before, sign, _, after, _, number, split, beforeBlank, afterBlank, signed,
        Numeral.readDigits?_eq_some_iff.mp digits, short, same⟩
    next long => cases read
  · rintro ⟨before, sign, digits, after, negative, number, split, beforeBlank, afterBlank, signed,
      numeral, short, rfl⟩
    have read := Numeral.readDigits?_eq_some_iff.mpr numeral
    simp only [readDecimal?, split, trimBlanks_number beforeBlank afterBlank signed numeral,
      splitSign_append signed numeral, if_pos short, read]
    rfl

/-- Behind the mark only an underscore is passed over. -/
theorem dropHexMark_marked (rest : List Char) :
    ∃ gap, rest = gap ++ dropHexMark ('0' :: 'x' :: rest) ∧ (gap = [] ∨ gap = ['_']) := by
  cases rest with
  | nil => exact ⟨[], rfl, .inl rfl⟩
  | cons first rest =>
      by_cases underscore : first = '_'
      · subst underscore
        exact ⟨['_'], rfl, .inr rfl⟩
      · exact ⟨[], by simp [dropHexMark, underscore], .inl rfl⟩

theorem dropHexMark_append {gap : List Char} {number : Nat}
    (single : gap = [] ∨ gap = ['_']) (numeral : Numeral 16 digits number) :
    dropHexMark ('0' :: 'x' :: (gap ++ digits)) = digits := by
  rcases single with rfl | rfl
  · obtain ⟨first, rest, digit, rfl, read⟩ := numeral.exists_first
    have other := ne_of_digitIn? read digitIn?_underscore
    simp [dropHexMark, other]
  · rfl

/-- Of a marked text blanks are trimmed off at the end only. -/
theorem trimBlanks_marked (rest : List Char) :
    trimBlanks ('0' :: 'x' :: rest) = '0' :: 'x' :: rest.rdropWhile isBlank := by
  have kept : ('0' :: 'x' :: rest).dropWhile isBlank = '0' :: 'x' :: rest := rfl
  rw [trimBlanks_eq_rdropWhile, kept]
  induction rest using List.reverseRecOn with
  | nil => rfl
  | append_singleton rest last inductionHypothesis =>
      have concat : '0' :: 'x' :: (rest ++ [last]) = ('0' :: 'x' :: rest) ++ [last] := rfl
      rw [concat, List.rdropWhile_concat, List.rdropWhile_concat]
      split
      · exact inductionHypothesis rfl
      · rfl

theorem readHexadecimal?_eq_some_iff
    {rest : List Char} (marked : text.toList = '0' :: 'x' :: rest) :
    readHexadecimal? text = some value ↔
      ∃ gap digits after number, rest = gap ++ digits ++ after ∧ (gap = [] ∨ gap = ['_']) ∧
        AllBlank after ∧ Numeral 16 digits number ∧ (number : Int) = value := by
  have unsigned : splitSign ('0' :: 'x' :: rest.rdropWhile isBlank) =
      (false, '0' :: 'x' :: rest.rdropWhile isBlank) := rfl
  simp only [readHexadecimal?, marked, trimBlanks_marked, unsigned]
  constructor
  · intro read
    obtain ⟨number, digits, rfl⟩ := Option.map_eq_some_iff.mp read
    obtain ⟨gap, split, single⟩ := dropHexMark_marked (rest.rdropWhile isBlank)
    refine ⟨gap, _, rest.rtakeWhile isBlank, number, ?_, single, fun _ => List.mem_rtakeWhile_imp,
      Numeral.readDigits?_eq_some_iff.mp digits, rfl⟩
    rw [← split, List.rdropWhile_append_rtakeWhile]
  · rintro ⟨gap, digits, after, number, rfl, single, afterBlank, numeral, rfl⟩
    have last : ∃ front character, gap ++ digits = front ++ [character] ∧
        isBlank character = false := by
      obtain ⟨front, last, digit, rfl, read⟩ := numeral.exists_last
      exact ⟨gap ++ front, last, (List.append_assoc ..).symm, not_isBlank_of_digitIn? read⟩
    rw [rdropWhile_isBlank_append afterBlank last, dropHexMark_append single numeral,
      Numeral.readDigits?_eq_some_iff.mpr numeral]
    rfl

/-- The reader takes the texts that stand for integers, and no others. -/
theorem readInteger?_eq_some_iff : readInteger? text = some value ↔ Writes text value := by
  unfold readInteger?
  constructor
  · intro read
    split at read
    next marked =>
      obtain ⟨rest, split⟩ := List.isPrefixOf_iff_prefix.mp marked
      obtain ⟨gap, digits, after, number, rfl, single, afterBlank, numeral, rfl⟩ :=
        (readHexadecimal?_eq_some_iff split.symm).mp read
      exact .hexadecimal split.symm single afterBlank numeral
    next =>
      obtain ⟨before, sign, digits, after, negative, number, split, beforeBlank, afterBlank, signed,
        numeral, short, rfl⟩ := readDecimal?_eq_some_iff.mp read
      exact .decimal split beforeBlank afterBlank signed numeral short
  · intro writes
    cases writes with
    | decimal split beforeBlank afterBlank signed numeral short =>
        have unmarked : ¬ ['0', 'x'].isPrefixOf text.toList := by
          intro marked
          obtain ⟨rest, same⟩ := List.isPrefixOf_iff_prefix.mp marked
          apply mark_not_mem beforeBlank afterBlank signed numeral
          rw [← split, ← same]
          simp
        rw [if_neg unmarked]
        exact readDecimal?_eq_some_iff.mpr
          ⟨_, _, _, _, _, _, split, beforeBlank, afterBlank, signed, numeral, short, rfl⟩
    | hexadecimal split single afterBlank numeral =>
        have marked : ['0', 'x'].isPrefixOf text.toList :=
          List.isPrefixOf_iff_prefix.mpr ⟨_, by rw [split, List.append_assoc]⟩
        rw [if_pos marked]
        rw [List.append_assoc] at split
        exact (readHexadecimal?_eq_some_iff split).mpr
          ⟨_, _, _, _, rfl, single, afterBlank, numeral, rfl⟩

end Integers

end Chip8.Text
