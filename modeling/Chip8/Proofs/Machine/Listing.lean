import Chip8.Machine.View
import Chip8.Proofs.Machine.FaultLaw
import Chip8.Proofs.Text.Hex
import Mathlib
/-!
Listings agree with cycles.  The line of the word at the program counter, taken
before a cycle, shows the very bytes and the very text that the cycle reports,
whatever the instruction does to the machine or to its own word; and it shows
data exactly when the cycle finds no instruction.
-/

namespace Chip8

open Numeric (Binary64)
open Text (HexLayout)

theorem Operation.exists_text_eq (operation : Operation) :
    ∃ rest, operation.text = operation.mnemonic ++ rest := by
  unfold text
  split
  · exact ⟨"", String.append_empty.symm⟩
  · exact ⟨" " ++ ", ".intercalate operation.operands, String.append_assoc⟩

/-- No mnemonic begins like the text of data. -/
theorem Opcode.mnemonic_append_ne (opcode : Opcode) (rest further : String) :
    opcode.mnemonic ++ rest ≠ "DW" ++ further := by
  intro same
  have characters := congrArg String.toList same
  simp only [String.toList_append] at characters
  -- one of the first two letters is always another
  cases opcode <;> simp [mnemonic] at characters

/-- The text of an instruction is never that of data. -/
theorem Instruction.text_ne_data (instruction : Instruction) (jumpsByX : Bool) (further : String) :
    (instruction.operation jumpsByX).text ≠ "DW" ++ further := by
  obtain ⟨rest, same⟩ := (instruction.operation jumpsByX).exists_text_eq
  rw [same]
  exact instruction.opcode.mnemonic_append_ne rest further

/-- A jump with an offset names the register that its dialect adds. -/
theorem Instruction.text_jumpOffset
    {instruction : Instruction} (opcode : instruction.opcode = .jumpOffset) (jumpsByX : Bool) :
    (instruction.operation jumpsByX).text =
      "JP " ++ registerName (if jumpsByX then instruction.x else Registers.offsetNumber).val ++
        ", 0x" ++ HexLayout.operand.render instruction.address := by
  have operands : (instruction.operation jumpsByX).operands =
      [registerName (if jumpsByX then instruction.x else Registers.offsetNumber).val,
        "0x" ++ HexLayout.operand.render instruction.address] := by
    simp only [operation, Opcode.operation, opcode, Opcode.operandTexts]
    cases jumpsByX
    · simp [Opcode.operandFormsIn, Opcode.operandForms, OperandForm.render, OperandForm.fixed,
        OperandForm.number, OperandValues.get, operandValues]
      decide
    · simp [Opcode.operandFormsIn, OperandForm.render, OperandForm.register, registerName,
        OperandForm.number, OperandValues.get, operandValues]
  have mnemonic : (instruction.operation jumpsByX).mnemonic = "JP" := by
    simp only [operation, Opcode.operation, opcode, Opcode.mnemonic]
  simp [Operation.text, operands, mnemonic, String.intercalate_cons_cons,
    String.intercalate_singleton, String.append_assoc]
  exact String.append_assoc.symm

namespace DelayTimer

theorem ticks_eq_error
    {reference now : Binary64} {fault : Fault} (failed : ticks reference now = .error fault) :
    fault = .ticksUndefined ∨ fault = .ticksInfinite := by
  unfold ticks at failed
  simp only at failed
  split at failed
  · cases failed
  · cases failed
    exact .inl rfl
  · cases failed
    exact .inr rfl

theorem load_eq_error
    {timer : DelayTimer} {now : Binary64} {fault : Fault}
    (failed : timer.load now = .error fault) :
    fault = .ticksUndefined ∨ fault = .ticksInfinite := by
  unfold load at failed
  split at failed
  · cases failed
  · cases counted : ticks timer.reference now with
    | ok count =>
        simp only [project, counted, bind, Except.bind, pure, Except.pure] at failed
        cases failed
    | error cause =>
        simp only [project, counted, bind, Except.bind] at failed
        cases failed
        exact ticks_eq_error counted

end DelayTimer

theorem Core.view_eq_error
    {core : Core} {now : Binary64} {fault : Fault} (failed : core.view now = .error fault) :
    fault = .ticksUndefined ∨ fault = .ticksInfinite := by
  cases loaded : core.delay.load now with
  | ok timer =>
      simp only [view, DelayTimer.peek, loaded] at failed
      cases failed
  | error cause =>
      simp only [view, DelayTimer.peek, loaded] at failed
      cases failed
      exact DelayTimer.load_eq_error loaded

/-- A word that is an instruction is never refused as if it were none. -/
theorem Instruction.kind_of_fault?
    {instruction : Instruction} {now : Binary64} {core : Core} {fault : Fault}
    (met : instruction.fault? now core = some fault) : fault.kind ≠ .unsupportedWord := by
  unfold fault? Memory.jumpFault? Memory.windowFault? at met
  cases opcode : instruction.opcode <;> simp only [opcode] at met
  case readDelay =>
    cases loaded : core.delay.load now with
    | ok timer => simp only [loaded, reduceCtorEq] at met
    | error cause =>
        simp only [loaded, Option.some.injEq] at met
        subst met
        rcases DelayTimer.load_eq_error loaded with rfl | rfl <;> decide
  all_goals repeat' split at met
  all_goals cases met
  all_goals simp [Fault.kind]

namespace Memory

def lineAt (memory : Memory) (jumpsByX : Bool) (address : Int) : ListingLine where
  address := address
  bytes := HexLayout.byteText (memory.byteAt address) ++ " " ++
    HexLayout.byteText (memory.byteAt (address + 1))
  text := ListingLine.textOf (memory.wordAt address) jumpsByX

theorem ofAddress_eq_ok
    (memory : Memory) (jumpsByX : Bool) {address : Int} (nonneg : 0 ≤ address)
    (inside : address + 2 ≤ cellCount) :
    ListingLine.ofAddress memory jumpsByX address = .ok (memory.lineAt jumpsByX address) := by
  have count : ((Length.number cellCount).count : Int) = cellCount := rfl
  have high := memory.ram.read_eq_ok nonneg (by omega)
  have low := memory.ram.read_eq_ok (by omega : 0 ≤ address + 1) (by omega)
  rw [ListingLine.ofAddress, high, low, lineAt, ← HexLayout.render_byte, ← HexLayout.render_byte]
  rfl

theorem disassemble_word
    (memory : Memory) (jumpsByX : Bool) {address : Int} (nonneg : 0 ≤ address)
    (inside : address + 2 < cellCount) :
    memory.disassemble address 2 jumpsByX = .ok [memory.lineAt jumpsByX address] := by
  have finish : listingEnd address 2 = address + 2 := by
    rw [listingEnd]
    omega
  have line := memory.ofAddress_eq_ok jumpsByX nonneg (by omega)
  rw [disassemble, finish, listFrom, if_pos (by omega), line, listFrom, if_neg (by omega)]
  rfl

end Memory

namespace Core

def nextHigh (core : Core) : UInt8 :=
  core.memory.byteAt core.memory.programCounter

def nextLow (core : Core) : UInt8 :=
  core.memory.byteAt (core.memory.programCounter + 1)

/-- The register whose value a jump with an offset adds. -/
def offsetRegister (core : Core) : Fin 16 :=
  if core.dialect.jumpsByX then Word.nibble core.nextWord 2 else Registers.offsetNumber

/-- The four digits of the next word. -/
def nextDigits (core : Core) : String :=
  HexLayout.byteText core.nextHigh ++ HexLayout.byteText core.nextLow

/-- The line of the word at the program counter. -/
def nextLine (core : Core) : ListingLine :=
  core.memory.lineAt core.dialect.jumpsByX core.memory.programCounter

theorem render_nextWord (core : Core) : HexLayout.word.render core.nextWord = core.nextDigits :=
  HexLayout.render_word core.nextHigh core.nextLow

variable {core : Core} {instruction : Instruction}

theorem text_nextLine_of_decode (decoded : Instruction.decode core.nextWord = .ok instruction) :
    core.nextLine.text = (instruction.operation core.dialect.jumpsByX).text :=
  ListingLine.textOf_of_decode decoded core.dialect.jumpsByX

theorem text_nextLine_of_undecoded
    {fault : Fault} (undecoded : Instruction.decode core.nextWord = .error fault) :
    core.nextLine.text = "DW 0x" ++ core.nextDigits := by
  rw [← render_nextWord]
  exact ListingLine.textOf_of_undecoded undecoded core.dialect.jumpsByX

end Core

namespace Machine

variable {machine : Machine} {readings : Readings}

/-- What a line for the word at the program counter has to do with the cycle that comes next. -/
structure ListingAgreement (machine : Machine) (readings : Readings) (line : ListingLine) :
    Prop where
  address : line.address = machine.core.memory.programCounter
  bytes : line.bytes =
    HexLayout.byteText machine.core.nextHigh ++ " " ++ HexLayout.byteText machine.core.nextLow
  /-- A cycle that succeeds reports the bytes and the text of the line. -/
  shown : ∀ snapshot next, machine.step readings = .ok snapshot next →
    snapshot.operation.text = line.text ∧
      snapshot.operation.word = machine.core.nextDigits ∧
      snapshot.symbol = some ("0x" ++
        HexLayout.addressText machine.core.memory.programCounter.toNat ++ ": " ++ line.text)
  /-- The line shows data if the cycle finds no instruction. -/
  unsupported : ∀ fault, machine.Raises readings fault → fault.kind = .unsupportedWord →
    fault = .unsupportedWord machine.core.nextWord ∧
      line.text = "DW 0x" ++ machine.core.nextDigits
  /-- The line shows no data if the cycle fails for any other reason. -/
  refused : ∀ fault, machine.Raises readings fault → fault.kind ≠ .unsupportedWord →
    ∀ further, line.text ≠ "DW" ++ further
  /-- The line of a jump with an offset names the register whose value is added. -/
  offset : Opcode.jumpOffset.Matches machine.core.nextWord →
    let target := machine.core.nextWord % 0x1000 +
      (machine.core.register machine.core.offsetRegister).toNat
    line.text = "JP " ++ registerName machine.core.offsetRegister.val ++ ", 0x" ++
        HexLayout.operand.render (machine.core.nextWord % 0x1000) ∧
      if 0x200 ≤ target ∧ target ≤ 0xEA0 then
        (machine.after (.step readings)).core.memory.programCounter = target
      else
        machine.Raises readings (.jumpOutside target)

section

variable (wellFormed : machine.core.WellFormed) (fetches : machine.core.Fetches)

include wellFormed fetches

theorem shown_nextLine
    {snapshot : Snapshot RegisterView} {next : Machine}
    (stepped : machine.step readings = .ok snapshot next) :
    snapshot.operation.text = machine.core.nextLine.text ∧
      snapshot.operation.word = machine.core.nextDigits ∧
      snapshot.symbol = some ("0x" ++
        HexLayout.addressText machine.core.memory.programCounter.toNat ++ ": " ++
          machine.core.nextLine.text) := by
  have cycle := cycle_of_wellFormed wellFormed readings
  rw [stepped] at cycle
  cases cycle with
  | waited awaiting => exact absurd awaiting fetches.ready
  | @completed instruction _ reaches =>
      -- the snapshot shows the instruction as it was decoded, not what is now in its cells
      have text := Core.text_nextLine_of_decode reaches.decoded
      have word : instruction.word = machine.core.nextWord :=
        congrArg Instruction.word (Instruction.decode_eq_ok_iff.mp reaches.decoded).2
      have low := wellFormed.counterNonneg
      have high := fetches.counter_le
      have address : HexLayout.cycleAddress.render machine.core.memory.programCounter =
          "0x" ++ HexLayout.addressText machine.core.memory.programCounter.toNat := by
        rw [← HexLayout.render_cycleAddress (by omega), Int.toNat_of_nonneg low]
      refine ⟨text.symm, ?_, ?_⟩
      · rw [← Core.render_nextWord]
        exact congrArg HexLayout.word.render word
      · rw [text, ← address]
        rfl

theorem nextLine_of_raises
    {fault : Fault} (raises : machine.Raises readings fault) :
    fault = .unsupportedWord machine.core.nextWord ∧
        machine.core.nextLine.text = "DW 0x" ++ machine.core.nextDigits ∨
      fault.kind ≠ .unsupportedWord ∧ ∀ further, machine.core.nextLine.text ≠ "DW" ++ further := by
  obtain ⟨next, raised⟩ := raises
  have cycle := cycle_of_wellFormed wellFormed readings
  rw [raised] at cycle
  -- a word that is an instruction is listed as one, whatever goes wrong with it later
  have otherwise {instruction : Instruction} (reaches : machine.core.Reaches instruction)
      (other : fault.kind ≠ .unsupportedWord) :
      fault.kind ≠ .unsupportedWord ∧ ∀ further, machine.core.nextLine.text ≠ "DW" ++ further := by
    refine ⟨other, ?_⟩
    rw [Core.text_nextLine_of_decode reaches.decoded]
    exact instruction.text_ne_data _
  cases cycle with
  | waitedUnseen awaiting => exact absurd awaiting fetches.ready
  | outside _ beyond => exact absurd fetches.inside (Int.not_le.mpr beyond)
  | undecoded _ undecoded =>
      exact .inl ⟨(Instruction.decode_eq_error_iff.mp undecoded).2,
        Core.text_nextLine_of_undecoded undecoded⟩
  | refused reaches met => exact .inr (otherwise reaches (Instruction.kind_of_fault? met))
  | unseen reaches _ unviewed =>
      refine .inr (otherwise reaches ?_)
      rcases Core.view_eq_error unviewed with rfl | rfl <;> decide

theorem offset_nextLine (matched : Opcode.jumpOffset.Matches machine.core.nextWord) :
    machine.core.nextLine.text = "JP " ++ registerName machine.core.offsetRegister.val ++ ", 0x" ++
        HexLayout.operand.render (machine.core.nextWord % 0x1000) ∧
      if Memory.InProgram (machine.core.offsetSum machine.core.nextWord) then
        (machine.after (.step readings)).core.memory.programCounter =
          machine.core.offsetSum machine.core.nextWord
      else
        machine.Raises readings (.jumpOutside (machine.core.offsetSum machine.core.nextWord)) := by
  have reaches := Core.reaches_of_matches fetches.ready fetches.counter_le matched
  have text := Core.text_nextLine_of_decode reaches.decoded
  constructor
  · rw [text, Instruction.text_jumpOffset rfl, Instruction.address_of_decode reaches.decoded]
    rfl
  · by_cases inside : Memory.InProgram (machine.core.offsetSum machine.core.nextWord)
    · rw [if_pos inside]
      have untimed (reads : Opcode.jumpOffset = .readDelay) :
          DelayTimer.TicksDefined machine.core.delay.reference readings.execution := by
        cases reads
      have allowed : (machine.core.nextInstruction .jumpOffset).cause? machine.core = none :=
        if_pos inside
      have accepted := Instruction.fault?_fetched wellFormed untimed reaches.decoded
      rw [allowed] at accepted
      rw [after_step_of_accepted wellFormed reaches accepted, Core.counter_completed]
      exact Instruction.offsetTarget_fetched reaches.decoded
    · have holds : RefusalCause.offsetTarget.Holds machine.core machine.core.nextWord :=
        ⟨matched, inside⟩
      rw [if_neg inside]
      exact raises_of_holds wellFormed fetches holds

end

/-- The line at the program counter tells beforehand what the next cycle will report. -/
theorem exists_listingAgreement
    (reachable : machine.Reachable) (ready : machine.core.runState ≠ .awaitingKey)
    (inside : machine.core.memory.programCounter ≤ 0xE9E) :
    ∃ line, machine.disassemble machine.core.memory.programCounter 2 = .ok [line] ∧
      ∀ readings, machine.ListingAgreement readings line := by
  have wellFormed := wellFormed_of_reachable reachable
  have fetches := Core.fetches_of_le ready inside
  refine ⟨machine.core.nextLine, ?_, ?_⟩
  · have room : machine.core.memory.programCounter + 2 < Memory.cellCount := by
      simp only [Memory.cellCount]
      omega
    exact machine.core.memory.disassemble_word _ wellFormed.counterNonneg room
  intro readings
  refine ⟨rfl, rfl, ?_, ?_, ?_, offset_nextLine wellFormed fetches⟩
  · intro snapshot next stepped
    exact shown_nextLine wellFormed fetches stepped
  · intro fault raises kind
    rcases nextLine_of_raises wellFormed fetches raises with data | ⟨other, -⟩
    · exact data
    · exact absurd kind other
  · intro fault raises kind
    rcases nextLine_of_raises wellFormed fetches raises with ⟨rfl, -⟩ | ⟨-, text⟩
    · exact absurd rfl kind
    · exact text

/-- Registers are stored over the very instruction that stores them. -/
theorem listingAgreement_overwritten :
    let machine := unloaded.run
      [.load [0xA2, 0x02, 0xF1, 0x55], .step (.still .zero)]
    machine.Reachable ∧ machine.core.runState ≠ .awaitingKey ∧
      machine.core.memory.programCounter ≤ 0xE9E ∧
      ∃ line, machine.disassemble machine.core.memory.programCounter 2 = .ok [line] ∧
        ∀ readings, machine.ListingAgreement readings line := by
  intro machine
  have reachable : machine.Reachable := reachable_run_unloaded _
  have ready : machine.core.runState ≠ .awaitingKey := by decide +kernel
  have inside : machine.core.memory.programCounter ≤ 0xE9E := by decide +kernel
  exact ⟨reachable, ready, inside, exists_listingAgreement reachable ready inside⟩

end Machine

end Chip8
