import Chip8.Disassembly
import Chip8.Proofs.Instruction.Decoding
import Mathlib
/-!
Reading the text of words back.  The mnemonic, the number of operands and the
first letter of each operand decide the instruction, and the digits in the
operands are the free digits of its word.
-/

namespace Chip8

open Text (HexLayout)

/-- What stands between the fixed texts of an operand. -/
def OperandForm.middle (form : OperandForm) (operand : List Char) : List Char :=
  (operand.drop form.before.toList.length).take
    (operand.length - form.before.toList.length - form.after.toList.length)

def OperandValues.set (values : OperandValues) (field : OperandField) (value : Int) :
    OperandValues :=
  match field with
  | .x => { values with x := value }
  | .y => { values with y := value }
  | .n => { values with n := value }
  | .kk => { values with kk := value }
  | .nnn => { values with nnn := value }

/-- The values that are shown in operands of some forms; the others are zero. -/
def OperandValues.shownIn (values : OperandValues) : List OperandForm → OperandValues
  | [] => {}
  | form :: forms =>
      match form.field with
      | some field => (values.shownIn forms).set field (values.get field)
      | none => values.shownIn forms

/-- What is seen of an instruction before any digit is read. -/
def Opcode.signature (opcode : Opcode) (jumpsByX : Bool) : List Char × List (Option Char) :=
  (opcode.mnemonic.toList,
    (opcode.operandFormsIn jumpsByX).map fun form => form.before.toList.head?)

namespace Assembly

/-- The number that hexadecimal digits stand for. -/
def number (digits : List Char) : Nat :=
  digits.foldl (fun value digit => 16 * value + (Opcode.symbolDigit? digit).getD 0) 0

/-- The mnemonic and the operands of a text. -/
def tokens (text : String) : List Char × List (List Char) :=
  let rest := text.toList.dropWhile (· ≠ ' ')
  (text.toList.takeWhile (· ≠ ' '),
    if rest = [] then [] else (rest.splitOn ',').map (List.drop 1))

/-- The values that are read from operands of some forms. -/
def readOperands : List OperandForm → List (List Char) → OperandValues
  | form :: forms, operand :: operands =>
      match form.field with
      | some field => (readOperands forms operands).set field (number (form.middle operand))
      | none => readOperands forms operands
  | _, _ => {}

/-- The word that a mnemonic and operands mean, if they look like those of a word. -/
def wordOf? (jumpsByX : Bool) (mnemonic : List Char) (operands : List (List Char)) : Option Int :=
  if mnemonic = "DW".toList then
    operands.head?.map fun operand => (number (operand.drop 2) : Int)
  else do
    let opcode ← Opcode.all.find? fun opcode =>
      opcode.signature jumpsByX = (mnemonic, operands.map List.head?)
    let values := readOperands (opcode.operandFormsIn jumpsByX) operands
    return (number (Opcode.substitute values opcode.pattern.toList) : Int)

/-- The word that has a given text, if the text looks like that of a word. -/
def assemble? (jumpsByX : Bool) (text : String) : Option Int :=
  wordOf? jumpsByX (tokens text).1 (tokens text).2

theorem number_append_singleton (digits : List Char) (digit : Char) :
    number (digits ++ [digit]) = 16 * number digits + (Opcode.symbolDigit? digit).getD 0 :=
  List.foldl_append

theorem number_replicate_append (count : Nat) (digits : List Char) :
    number (List.replicate count '0' ++ digits) = number digits := by
  induction count with
  | zero => rfl
  | succ count inductionHypothesis => exact inductionHypothesis

theorem symbolDigit?_letter (value : Nat) :
    Opcode.symbolDigit? (HexLayout.word.letter (Nat.digitChar (value % 16))) =
      some (value % 16) := by
  have digits : ∀ digit < 16,
      Opcode.symbolDigit? (HexLayout.word.letter (Nat.digitChar digit)) = some digit := by
    decide
  exact digits (value % 16) (Nat.mod_lt value (by decide))

theorem number_lastDigits (count value : Nat) :
    number (HexLayout.word.lastDigits count value) = value % 16 ^ count := by
  induction count generalizing value with
  | zero => exact (Nat.mod_one value).symm
  | succ count inductionHypothesis =>
      rw [HexLayout.lastDigits, number_append_singleton, inductionHypothesis,
        symbolDigit?_letter, Option.getD_some, Nat.pow_succ', Nat.mod_mul, Nat.add_comm]

/-- Zeros in front of a number make it one of a fixed length. -/
theorem exists_replicate_append_digits (value : Nat) :
    ∃ filling count, List.replicate filling '0' ++ HexLayout.operand.digits value =
      HexLayout.word.lastDigits count value ∧ value < 16 ^ count := by
  have small : value < 16 ^ (value + 1) :=
    (Nat.lt_pow_self (by decide)).trans (Nat.pow_lt_pow_right (by decide) (Nat.lt_succ_self value))
  have letters : HexLayout.operand.capitals = HexLayout.word.capitals := rfl
  have filled := HexLayout.operand.replicate_append_digits (Nat.succ_pos value) small
  rw [HexLayout.lastDigits_of_capitals letters] at filled
  exact ⟨_, _, filled, small⟩

theorem number_digits (value : Nat) : number (HexLayout.operand.digits value) = value := by
  obtain ⟨filling, count, filled, small⟩ := exists_replicate_append_digits value
  rw [← number_replicate_append filling, filled, number_lastDigits, Nat.mod_eq_of_lt small]

theorem characters_operand {value : Int} (nonneg : 0 ≤ value) :
    HexLayout.operand.characters value = HexLayout.operand.digits value.toNat := by
  have lead : HexLayout.operand.lead value = [] := by
    rw [HexLayout.lead, if_neg (Int.not_lt.mpr nonneg)]
    rfl
  have magnitude : value.natAbs = value.toNat := by omega
  rw [HexLayout.characters, lead, magnitude, HexLayout.operand, Nat.zero_sub, Nat.zero_sub]
  rfl

theorem isSome_of_mem_lastDigits
    {count value : Nat} {digit : Char} (member : digit ∈ HexLayout.word.lastDigits count value) :
    (Opcode.symbolDigit? digit).isSome := by
  induction count generalizing value with
  | zero => cases member
  | succ count inductionHypothesis =>
      rw [HexLayout.lastDigits, List.mem_append, List.mem_singleton] at member
      rcases member with front | rfl
      · exact inductionHypothesis front
      · rw [symbolDigit?_letter]
        rfl

theorem toList_render (form : OperandForm) (values : OperandValues) :
    (form.render values).toList =
      form.before.toList ++
        (form.field.map fun field => HexLayout.operand.characters (values.get field)).getD [] ++
          form.after.toList := by
  rw [OperandForm.render, String.toList_append, String.toList_append]
  cases form.field with
  | none => rfl
  | some field => simp [HexLayout.render]

theorem middle_append (form : OperandForm) (characters : List Char) :
    form.middle (form.before.toList ++ characters ++ form.after.toList) = characters := by
  simp [OperandForm.middle]

/-- No operand of an instruction is negative. -/
theorem get_operandValues_nonneg (instruction : Instruction) (field : OperandField) :
    0 ≤ instruction.operandValues.get field := by
  have address := instruction.address_mem_range.1
  cases field <;> simp [OperandValues.get, Instruction.operandValues, address]

theorem readOperands_render
    {values : OperandValues} (nonneg : ∀ field, 0 ≤ values.get field) (forms : List OperandForm) :
    readOperands forms ((forms.map (·.render values)).map String.toList) =
      values.shownIn forms := by
  induction forms with
  | nil => rfl
  | cons form forms inductionHypothesis =>
      simp only [List.map_cons, readOperands, OperandValues.shownIn, inductionHypothesis]
      cases shown : form.field with
      | none => rfl
      | some field =>
          have read :
              (number (form.middle (form.render values).toList) : Int) = values.get field := by
            rw [toList_render, shown, Option.map_some, Option.getD_some, middle_append,
              characters_operand (nonneg field), number_digits, Int.toNat_of_nonneg (nonneg field)]
          simp only [read]

/-- The operands that are shown are all that the pattern of an instruction asks for. -/
theorem substitute_shownIn (opcode : Opcode) (jumpsByX : Bool) (values : OperandValues) :
    Opcode.substitute (values.shownIn (opcode.operandFormsIn jumpsByX)) opcode.pattern.toList =
      Opcode.substitute values opcode.pattern.toList := by
  cases opcode <;> cases jumpsByX <;> rfl

/-- Instructions that look alike are the same. -/
theorem eq_of_signature_eq
    {jumpsByX : Bool} {left right : Opcode}
    (same : left.signature jumpsByX = right.signature jumpsByX) : left = right := by
  have distinct : ∀ jumpsByX, ∀ left ∈ Opcode.all, ∀ right ∈ Opcode.all,
      left.signature jumpsByX = right.signature jumpsByX → left = right := by
    decide +kernel
  exact distinct jumpsByX left left.mem_all right right.mem_all same

theorem find?_signature (jumpsByX : Bool) (opcode : Opcode) :
    Opcode.all.find? (fun other => other.signature jumpsByX = opcode.signature jumpsByX) =
      some opcode := by
  cases found : Opcode.all.find? (fun other =>
      other.signature jumpsByX = opcode.signature jumpsByX) with
  | none =>
      have missing := List.find?_eq_none.mp found opcode opcode.mem_all
      simp at missing
  | some other =>
      have same : other.signature jumpsByX = opcode.signature jumpsByX := by
        simpa using List.find?_some found
      rw [eq_of_signature_eq same]

/-- Every operand begins with a fixed letter, and no comma is fixed in any. -/
theorem form_of_mem
    {opcode : Opcode} {jumpsByX : Bool} {form : OperandForm}
    (member : form ∈ opcode.operandFormsIn jumpsByX) :
    form.before.toList ≠ [] ∧ ',' ∉ form.before.toList ∧ ',' ∉ form.after.toList := by
  have plain : ∀ jumpsByX, ∀ opcode ∈ Opcode.all, ∀ form ∈ opcode.operandFormsIn jumpsByX,
      form.before.toList ≠ [] ∧ ',' ∉ form.before.toList ∧ ',' ∉ form.after.toList := by
    decide +kernel
  exact plain jumpsByX opcode opcode.mem_all form member

theorem signature_of_operands
    (opcode : Opcode) (jumpsByX : Bool) (values : OperandValues) :
    (opcode.mnemonic.toList,
        ((opcode.operandTexts values jumpsByX).map String.toList).map List.head?) =
      opcode.signature jumpsByX := by
  rw [Opcode.signature, Opcode.operandTexts, List.map_map, List.map_map]
  congr 1
  apply List.map_congr_left
  intro form member
  simp only [Function.comp_apply]
  rw [toList_render, List.append_assoc, List.head?_append_of_ne_nil _ (form_of_mem member).1]

theorem comma_not_mem_operandTexts
    {opcode : Opcode} {jumpsByX : Bool} {values : OperandValues}
    (nonneg : ∀ field, 0 ≤ values.get field) :
    ∀ operand ∈ opcode.operandTexts values jumpsByX, ',' ∉ operand.toList := by
  intro operand member
  obtain ⟨form, formMember, rfl⟩ := List.mem_map.mp member
  obtain ⟨-, before, after⟩ := form_of_mem formMember
  rw [toList_render, List.mem_append, List.mem_append]
  rintro ((inBefore | inMiddle) | inAfter)
  · exact before inBefore
  · cases shown : form.field with
    | none =>
        rw [shown] at inMiddle
        cases inMiddle
    | some field =>
        rw [shown, Option.map_some, Option.getD_some, characters_operand (nonneg field)] at inMiddle
        obtain ⟨filling, count, filled, -⟩ :=
          exists_replicate_append_digits (values.get field).toNat
        have digit : ',' ∈ HexLayout.word.lastDigits count (values.get field).toNat :=
          filled ▸ List.mem_append_right _ inMiddle
        exact absurd (isSome_of_mem_lastDigits digit) (by decide)
  · exact after inAfter

theorem cons_intercalate (operands : List (List Char)) (more : operands ≠ []) :
    ' ' :: [',', ' '].intercalate operands = [','].intercalate (operands.map (' ' :: ·)) := by
  induction operands with
  | nil => exact absurd rfl more
  | cons operand operands inductionHypothesis =>
      cases operands with
      | nil => simp
      | cons next operands =>
          have rest := inductionHypothesis (List.cons_ne_nil next operands)
          rw [List.map_cons] at rest
          rw [List.intercalate_cons_cons, List.map_cons, List.map_cons, List.intercalate_cons_cons,
            ← rest]
          simp

theorem toList_text (operation : Operation) :
    operation.text.toList =
      operation.mnemonic.toList ++
        [','].intercalate ((operation.operands.map String.toList).map (' ' :: ·)) := by
  unfold Operation.text
  cases shown : operation.operands with
  | nil => exact (List.append_nil _).symm
  | cons operand operands =>
      have more : (operand :: operands).map String.toList ≠ [] := List.cons_ne_nil _ _
      have comma : ", ".toList = [',', ' '] := rfl
      have space : " ".toList = [' '] := rfl
      rw [← cons_intercalate _ more, List.isEmpty_cons, if_neg Bool.false_ne_true,
        String.toList_append, String.toList_append, String.toList_intercalate, comma, space,
        List.append_assoc, List.singleton_append]

theorem tokens_text
    {operation : Operation} (solid : ' ' ∉ operation.mnemonic.toList)
    (apart : ∀ operand ∈ operation.operands, ',' ∉ operand.toList) :
    tokens operation.text =
      (operation.mnemonic.toList, operation.operands.map String.toList) := by
  have mnemonic : ∀ character ∈ operation.mnemonic.toList, decide (character ≠ ' ') = true := by
    intro character member
    apply decide_eq_true
    rintro rfl
    exact solid member
  rw [tokens, toList_text, List.takeWhile_append_of_pos mnemonic,
    List.dropWhile_append_of_pos mnemonic]
  cases shown : operation.operands with
  | nil => simp
  | cons operand operands =>
      rw [shown] at apart
      have pieces : ∀ piece ∈ ((operand :: operands).map String.toList).map (' ' :: ·),
          ',' ∉ piece := by
        intro piece member
        obtain ⟨_, listed, rfl⟩ := List.mem_map.mp member
        obtain ⟨other, otherListed, rfl⟩ := List.mem_map.mp listed
        rintro (_ | ⟨_, inside⟩)
        exact apart other otherListed inside
      have split := List.splitOn_intercalate ',' pieces (List.cons_ne_nil _ _)
      have tail := cons_intercalate ((operand :: operands).map String.toList) (List.cons_ne_nil _ _)
      rw [← tail] at split ⊢
      simp only [ne_eq, decide_not, decide_true, Bool.not_true, Bool.false_eq_true,
        not_false_eq_true, List.takeWhile_cons_of_neg, List.dropWhile_cons_of_neg, List.append_nil,
        reduceCtorEq, if_false]
      rw [split]
      simp

theorem assemble?_text
    {operation : Operation} (jumpsByX : Bool) (solid : ' ' ∉ operation.mnemonic.toList)
    (apart : ∀ operand ∈ operation.operands, ',' ∉ operand.toList) :
    assemble? jumpsByX operation.text =
      wordOf? jumpsByX operation.mnemonic.toList (operation.operands.map String.toList) := by
  rw [assemble?, tokens_text solid apart]

/-- The text of an instruction is read back. -/
theorem assemble?_operation (instruction : Instruction) (jumpsByX : Bool) :
    assemble? jumpsByX (instruction.operation jumpsByX).text =
      some (number (Opcode.substitute instruction.operandValues
        instruction.opcode.pattern.toList) : Int) := by
  have nonneg := get_operandValues_nonneg instruction
  have plain : ∀ opcode ∈ Opcode.all,
      ' ' ∉ opcode.mnemonic.toList ∧ opcode.mnemonic.toList ≠ "DW".toList := by
    decide +kernel
  obtain ⟨solid, notData⟩ := plain instruction.opcode instruction.opcode.mem_all
  have mnemonic : (instruction.operation jumpsByX).mnemonic = instruction.opcode.mnemonic := rfl
  have operands : (instruction.operation jumpsByX).operands =
      instruction.opcode.operandTexts instruction.operandValues jumpsByX := rfl
  have values := readOperands_render nonneg (instruction.opcode.operandFormsIn jumpsByX)
  rw [assemble?_text jumpsByX solid (comma_not_mem_operandTexts nonneg), wordOf?, mnemonic,
    operands, if_neg notData, signature_of_operands, find?_signature, Opcode.operandTexts,
    Option.bind_eq_bind, Option.bind_some, values]
  simp only [substitute_shownIn]
  rfl

/-- A word of sixteen bits has four digits. -/
theorem characters_word {word : Int} (nonneg : 0 ≤ word) (small : word < 0x10000) :
    HexLayout.word.characters word = HexLayout.word.lastDigits 4 word.toNat ∧
      (number (HexLayout.word.lastDigits 4 word.toNat) : Int) = word := by
  lift word to Nat using nonneg
  have room : word < 16 ^ 4 := by omega
  constructor
  · exact HexLayout.characters_eq_lastDigits (Nat.succ_pos 3) room rfl
  · rw [number_lastDigits, Int.toNat_natCast, Nat.mod_eq_of_lt room]

/-- The text of data is read back. -/
theorem assemble?_data
    {word : Int} (nonneg : 0 ≤ word) (small : word < 0x10000) (jumpsByX : Bool) :
    assemble? jumpsByX ("DW 0x" ++ HexLayout.word.render word) = some word := by
  obtain ⟨written, read⟩ := characters_word nonneg small
  have operand : ("0x" ++ HexLayout.word.render word).toList =
      '0' :: 'x' :: HexLayout.word.lastDigits 4 word.toNat := by
    simp [HexLayout.render, written]
  let operation : Operation :=
    { word := "", mnemonic := "DW", operands := ["0x" ++ HexLayout.word.render word] }
  have solid : ' ' ∉ operation.mnemonic.toList := by
    have data : operation.mnemonic = "DW" := rfl
    rw [data]
    decide
  have apart : ∀ operand ∈ operation.operands, ',' ∉ operand.toList := by
    intro other member
    rw [List.mem_singleton.mp member, operand]
    rintro (_ | ⟨_, _ | ⟨_, inside⟩⟩)
    exact absurd (isSome_of_mem_lastDigits inside) (by decide)
  have text : "DW 0x" ++ HexLayout.word.render word = operation.text := by
    apply String.toList_inj.mp
    rw [toList_text]
    simp [operation]
  rw [text, assemble?_text jumpsByX solid apart]
  simp [operation, wordOf?, operand, read]

/-- The text of a word is read back, whether the word is an instruction or data. -/
theorem assemble?_textOf {word : Int} (nonneg : 0 ≤ word) (small : word < 0x10000)
    (jumpsByX : Bool) : assemble? jumpsByX (ListingLine.textOf word jumpsByX) = some word := by
  cases decoded : Instruction.decode word with
  | ok instruction =>
      have read := assemble?_operation instruction jumpsByX
      obtain ⟨written, digits⟩ := characters_word nonneg small
      rw [Instruction.substitute_of_decode decoded, Int.emod_eq_of_lt nonneg small, written,
        digits] at read
      rw [ListingLine.textOf_of_decode decoded]
      exact read
  | error fault =>
      rw [ListingLine.textOf_of_undecoded decoded]
      exact assemble?_data nonneg small jumpsByX

example : assemble? false "SHR VA \x7b, V3\x7d" = some 0x8A36 := by
  decide +kernel

end Assembly

end Chip8
