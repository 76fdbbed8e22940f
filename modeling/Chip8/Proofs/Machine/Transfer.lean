import Chip8.Proofs.Machine.ClockedRun
import Chip8.Proofs.Machine.DialectLocality
import Chip8.Proofs.Memory.Transfer
import Mathlib
/-!
Transfers between the registers and memory.  Registers that have been stored
can be loaded again from the same place, one file or many in a row; and a number
is stored as its decimal digits or refused as a whole.
-/

namespace Chip8

open Numeric (Binary64)

namespace Instruction

/-- The instruction of the word `FX55`. -/
def storing (x : Fin 16) : Instruction :=
  ⟨0xF055 + 0x100 * (x.val : Int), .storeRegisters, x, Word.nibble 0xF055 1, Word.nibble 0xF055 0⟩

/-- The instruction of the word `FX65`. -/
def loading (x : Fin 16) : Instruction :=
  ⟨0xF065 + 0x100 * (x.val : Int), .loadRegisters, x, Word.nibble 0xF065 1, Word.nibble 0xF065 0⟩

theorem decode_transfer (x : Fin 16) :
    decode (0xF055 + 0x100 * (x.val : Int)) = .ok (storing x) ∧
      decode (0xF065 + 0x100 * (x.val : Int)) = .ok (loading x) := by
  revert x
  decide

end Instruction

namespace Core

/-- Where the index register stands behind `V0..VX`. -/
def indexBehind (core : Core) (x : Fin 16) : Int :=
  if core.dialect.movesIndex then (core.memory.index + (x.val + 1)) % 0x1000
  else core.memory.index

/-- `V0..VX` have been put in memory. -/
structure Stored (before : Core) (x : Fin 16) (after : Core) : Prop where
  written : ∀ number ≤ x,
    after.memory.byteAt (before.memory.index + number.val) = before.register number
  cells : ∀ address, 0 ≤ address →
    address < before.memory.index ∨ before.memory.index + x.val < address →
    after.memory.byteAt address = before.memory.byteAt address
  registers : after.registers = before.registers
  index : after.memory.index = before.indexBehind x

/-- `V0..VX` have been filled from memory. -/
structure Loaded (before : Core) (x : Fin 16) (after : Core) : Prop where
  read : ∀ number ≤ x,
    after.register number = before.memory.byteAt (before.memory.index + number.val)
  others : ∀ number, x < number → after.register number = before.register number
  cells : after.memory.ram = before.memory.ram
  index : after.memory.index = before.indexBehind x

variable {core after : Core} {x : Fin 16} (now : Binary64)

theorem stored_of_ram
    (nonneg : 0 ≤ core.memory.index) (inside : core.memory.index + x.val < 0x1000)
    (ram : after.memory.ram =
      core.memory.ram.overwriteAt core.memory.index (core.registers.dump x.val))
    (registers : after.registers = core.registers)
    (index : after.memory.index = core.indexBehind x) :
    core.Stored x after := by
  have length := core.registers.length_dump x
  have room : core.memory.index + (core.registers.dump x.val).length ≤
      (Length.number Memory.cellCount).count := by
    simp only [Length.count_number, Memory.cellCount]
    omega
  constructor
  case written =>
    intro number dumped
    have covered : number.val < (core.registers.dump x.val).length := by
      rw [length]
      exact Nat.lt_succ_of_le dumped
    rw [Memory.byteAt, ram, core.memory.ram.byteAt_overwriteAt_add nonneg room covered,
      core.registers.getD_dump dumped]
    rfl
  case cells =>
    intro address addressNonneg free
    have byte := core.memory.ram.byteAt_overwriteAt nonneg room addressNonneg
    rw [if_neg (by omega)] at byte
    rw [Memory.byteAt, ram, byte]
    rfl
  case registers => exact registers
  case index => exact index

theorem loaded_of_registers
    (registers : after.registers =
      core.registers.loadBytes (core.memory.window (x.val + 1)))
    (ram : after.memory.ram = core.memory.ram)
    (index : after.memory.index = core.indexBehind x) :
    core.Loaded x after := by
  have length := core.memory.length_window (x.val + 1)
  constructor
  case read =>
    intro number dumped
    have inside : number.val < x.val + 1 := Nat.lt_succ_of_le dumped
    have bytes : number.val < (core.memory.window (x.val + 1)).length := by rwa [length]
    rw [register, registers, Registers.get_loadBytes, ← core.memory.getD_window inside,
      List.getD_eq_getElem _ _ bytes, List.getD_eq_getElem _ _ bytes]
  case others =>
    intro number behind
    rw [register, registers, Registers.get_loadBytes, register]
    apply List.getD_eq_default
    rw [length]
    exact behind
  case cells => exact ram
  case index => exact index

variable (core) in
theorem accepted_transfer
    {instruction : Instruction}
    (transfer : instruction.opcode = .storeRegisters ∨ instruction.opcode = .loadRegisters)
    (inside : core.memory.index + instruction.x.val < 0x1000) :
    instruction.fault? now core = none := by
  have room : core.memory.windowFault? (instruction.x.val + 1) = none := by
    apply Memory.windowFault?_eq_none_iff.mpr
    simp only [Memory.cellCount]
    omega
  rcases transfer with opcode | opcode
  · simp only [Instruction.fault?, opcode, room]
  · simp only [Instruction.fault?, opcode, room]

variable (core x) in
theorem execute_storing
    (nonneg : 0 ≤ core.memory.index) (inside : core.memory.index + x.val < 0x1000) :
    (Instruction.storing x).execute now core =
      .ok ()
        { core with
          memory := { core.memory with
            ram := core.memory.ram.overwriteAt core.memory.index (core.registers.dump x.val)
            index := core.indexBehind x } } := by
  have accepted : (Instruction.storing x).fault? now core = none :=
    accepted_transfer core now (.inl rfl) inside
  rw [Instruction.execute_eq now nonneg, Instruction.outcome, accepted]
  rfl

variable (core x) in
theorem execute_loading
    (nonneg : 0 ≤ core.memory.index) (inside : core.memory.index + x.val < 0x1000) :
    (Instruction.loading x).execute now core =
      .ok ()
        { core with
          memory := { core.memory with index := core.indexBehind x }
          registers := core.registers.loadBytes (core.memory.window (x.val + 1)) } := by
  have accepted : (Instruction.loading x).fault? now core = none :=
    accepted_transfer core now (.inr rfl) inside
  rw [Instruction.execute_eq now nonneg, Instruction.outcome, accepted]
  rfl

/-- The first registers of some files, one file after another. -/
def dumps (files : List (Registers × Fin 16)) : List UInt8 :=
  files.flatMap fun file => file.1.dump file.2.val

/-- Put files of registers in memory, each where the one before it ends. -/
def storeInTurn : List (Registers × Fin 16) → Action Unit
  | [] => return
  | (registers, x) :: files => do
      modify fun core => { core with registers }
      (Instruction.storing x).execute now
      storeInTurn files

/-- Fill the registers again and again, and tell what they have been filled with. -/
def loadInTurn : List (Fin 16) → Action (List (List UInt8))
  | [] => return []
  | x :: others => do
      (Instruction.loading x).execute now
      let bytes := (← get).registers.dump x.val
      let rest ← loadInTurn others
      return bytes :: rest

theorem dumps_cons (registers : Registers) (x : Fin 16) (files : List (Registers × Fin 16)) :
    dumps ((registers, x) :: files) = registers.dump x.val ++ dumps files := rfl

/-- The number of cells that the first registers of some files take. -/
def extent (files : List (Registers × Fin 16)) : Nat :=
  (files.map fun file => file.2.val + 1).sum

theorem length_dumps (files : List (Registers × Fin 16)) :
    (dumps files).length = extent files := by
  induction files with
  | nil => rfl
  | cons file files inductionHypothesis =>
      rw [dumps_cons, List.length_append, inductionHypothesis, Registers.length_dump]
      rfl

/-- Behind a transfer that others follow the index register does not wrap. -/
theorem indexBehind_of_moves
    (moves : core.dialect.movesIndex = true) (nonneg : 0 ≤ core.memory.index)
    (room : core.memory.index + (x.val + 1) < 0x1000) :
    core.indexBehind x = core.memory.index + (x.val + 1) := by
  rw [indexBehind, if_pos moves]
  omega

theorem length_dumps_pos {files : List (Registers × Fin 16)} (more : files ≠ []) :
    0 < (dumps files).length := by
  obtain ⟨⟨registers, x⟩, rest, rfl⟩ := List.exists_cons_of_ne_nil more
  rw [dumps_cons, List.length_append, Registers.length_dump]
  omega

theorem storeInTurn_cons (registers : Registers) (files : List (Registers × Fin 16)) :
    storeInTurn now ((registers, x) :: files) core =
      match (Instruction.storing x).execute now { core with registers } with
      | .ok _ stored => storeInTurn now files stored
      | .error fault left => .error fault left := by
  have replaced : (modify fun core => { core with registers } : Action Unit) core =
      .ok () { core with registers } := rfl
  simp only [storeInTurn, bind, EStateM.bind, replaced]
  cases (Instruction.storing x).execute now { core with registers } <;> rfl

theorem loadInTurn_cons (others : List (Fin 16)) :
    loadInTurn now (x :: others) core =
      match (Instruction.loading x).execute now core with
      | .ok _ loaded =>
          match loadInTurn now others loaded with
          | .ok rest left => .ok (loaded.registers.dump x.val :: rest) left
          | .error fault left => .error fault left
      | .error fault left => .error fault left := by
  simp only [loadInTurn, bind, EStateM.bind]
  cases (Instruction.loading x).execute now core with
  | error fault left => rfl
  | ok _ loaded =>
      have got : (get : Action Core) loaded = .ok loaded loaded := rfl
      simp only [got]
      cases loadInTurn now others loaded <;> rfl

/-- Files that are stored in a row are one block. -/
theorem storeInTurn_eq
    {files : List (Registers × Fin 16)} (moves : core.dialect.movesIndex = true)
    (nonneg : 0 ≤ core.memory.index) (small : core.memory.index < 0x1000)
    (inside : core.memory.index + (dumps files).length ≤ 0x1000) :
    ∃ registers, storeInTurn now files core =
      .ok ()
        { core with
          memory := { core.memory with
            ram := core.memory.ram.overwriteAt core.memory.index (dumps files)
            index := (core.memory.index + (dumps files).length) % 0x1000 }
          registers } := by
  induction files generalizing core with
  | nil =>
      have unmoved : (core.memory.index + (dumps []).length) % 0x1000 = core.memory.index := by
        simp only [dumps, List.flatMap_nil, List.length_nil]
        omega
      rw [unmoved]
      exact ⟨core.registers, rfl⟩
  | cons file files inductionHypothesis =>
      obtain ⟨registers, x⟩ := file
      have length := registers.length_dump x
      rw [dumps_cons, List.length_append, length] at inside ⊢
      have stored := execute_storing { core with registers } x now nonneg
        (by simp only; omega)
      rw [storeInTurn_cons, stored]
      by_cases last : files = []
      · subst last
        refine ⟨registers, ?_⟩
        simp only [storeInTurn, dumps, indexBehind, List.flatMap_nil, List.append_nil,
          List.length_nil, moves, if_true]
        rfl
      · have more := length_dumps_pos last
        have room : core.memory.index + (x.val + 1) < 0x1000 := by omega
        have index : ({ core with registers } : Core).indexBehind x =
            core.memory.index + (x.val + 1) := indexBehind_of_moves moves nonneg room
        have nextNonneg : 0 ≤ core.memory.index + (x.val + 1) := by omega
        have nextInside : core.memory.index + (x.val + 1) + (dumps files).length ≤ 0x1000 := by
          omega
        have joined := core.memory.ram.overwriteAt_append nonneg (registers.dump x.val)
          (dumps files)
        have place : ((x.val + 1 : Nat) : Int) = x.val + 1 := rfl
        have finish : core.memory.index + ((x.val + 1 + (dumps files).length : Nat) : Int) =
            core.memory.index + (x.val + 1) + (dumps files).length := by omega
        rw [joined, length, place, finish, index]
        let next : Core :=
          { core with
            memory := { core.memory with
              ram := core.memory.ram.overwriteAt core.memory.index (registers.dump x.val)
              index := core.memory.index + (x.val + 1) }
            registers }
        exact @inductionHypothesis next moves nextNonneg room nextInside

/-- What stands at the index register is loaded file by file. -/
theorem loadInTurn_eq
    {files : List (Registers × Fin 16)} (moves : core.dialect.movesIndex = true)
    (nonneg : 0 ≤ core.memory.index)
    (inside : core.memory.index + (dumps files).length ≤ 0x1000)
    (stands : core.memory.window (dumps files).length = dumps files) :
    ∃ loaded, loadInTurn now (files.map Prod.snd) core =
      .ok (files.map fun file => file.1.dump file.2.val) loaded := by
  induction files generalizing core with
  | nil => exact ⟨core, rfl⟩
  | cons file files inductionHypothesis =>
      obtain ⟨registers, x⟩ := file
      have length := registers.length_dump x
      rw [dumps_cons, List.length_append, length] at inside stands
      rw [Memory.window_add] at stands
      obtain ⟨first, rest⟩ := List.append_inj stands
        ((core.memory.length_window _).trans length.symm)
      have loaded := execute_loading core x now nonneg (by omega)
      rw [List.map_cons, loadInTurn_cons, loaded, first]
      simp only [Registers.dump_loadBytes _ length, List.map_cons]
      by_cases last : files = []
      · subst last
        exact ⟨_, rfl⟩
      · have more := length_dumps_pos last
        have room : core.memory.index + (x.val + 1) < 0x1000 := by omega
        have index := indexBehind_of_moves moves nonneg room
        rw [index]
        let next : Core :=
          { core with
            memory := { core.memory with index := core.memory.index + (x.val + 1) }
            registers := core.registers.loadBytes (registers.dump x.val) }
        have nextNonneg : 0 ≤ core.memory.index + (x.val + 1) := by omega
        have nextInside : core.memory.index + (x.val + 1) + (dumps files).length ≤ 0x1000 := by
          omega
        obtain ⟨left, done⟩ := @inductionHypothesis next moves nextNonneg nextInside rest
        rw [done]
        exact ⟨left, rfl⟩

/-- Put the decimal digits of a number in memory. -/
def putDecimal (value : Int) : Action Unit :=
  attempt (·.tryMemory (·.writeDecimal value))

/-- A number is stored as its digits, or the machine is left as it was. -/
structure DecimalLaw (core : Core) (value : Int) : Prop where
  refused : ∀ fault after, putDecimal value core = .error fault after →
    after = core ∧ (fault.kind = .value ∨ fault.kind = .addressRange)
  badValue : (∃ fault after, putDecimal value core = .error fault after ∧ fault.kind = .value) ↔
    value < 0 ∨ 25600 ≤ value
  badWindow :
    (∃ fault after, putDecimal value core = .error fault after ∧ fault.kind = .addressRange) ↔
      (0 ≤ value ∧ value < 25600) ∧ 0xFFD < core.memory.index
  stored : 0 ≤ value → value < 25600 → core.memory.index ≤ 0xFFD →
    ∃ ram, putDecimal value core =
        .ok () { core with memory := { core.memory with ram } } ∧
      100 * ((ram.byteAt core.memory.index).toNat : Int) +
          10 * (ram.byteAt (core.memory.index + 1)).toNat +
          (ram.byteAt (core.memory.index + 2)).toNat = value ∧
      (ram.byteAt (core.memory.index + 1)).toNat ≤ 9 ∧
      (ram.byteAt (core.memory.index + 2)).toNat ≤ 9 ∧
      ∀ address, 0 ≤ address →
        address < core.memory.index ∨ core.memory.index + 2 < address →
        ram.byteAt address = core.memory.byteAt address

theorem putDecimal_eq (nonneg : 0 ≤ core.memory.index) (value : Int) :
    putDecimal value core =
      if value < 0 ∨ 25600 ≤ value then .error .blockData core
      else if 0xFFD < core.memory.index then .error (.windowOutside 3 core.memory.index) core
      else
        .ok ()
          { core with
            memory := { core.memory with
              ram :=
                core.memory.ram.overwriteAt core.memory.index (Memory.digitBytes value) } } := by
  by_cases large : value < 0 ∨ 25600 ≤ value
  · rw [if_pos large]
    simp only [putDecimal, attempt, tryMemory, core.memory.writeDecimal_of_large large]
    rfl
  · rw [if_neg large]
    have written : core.memory.writeDecimal value = _ :=
      core.memory.writeDecimal_of_digits (by omega) (by omega)
    have window := Memory.writeWindow_eq nonneg (Memory.digitBytes value)
    have three : (Memory.digitBytes value).length = 3 := rfl
    have room : core.memory.index + ((3 : Nat) : Int) ≤ Memory.cellCount ↔
        ¬ 0xFFD < core.memory.index := by
      simp only [Memory.cellCount]
      omega
    simp only [three, Memory.windowFault?, room] at window
    simp only [putDecimal, attempt, tryMemory, written, window]
    by_cases outside : 0xFFD < core.memory.index
    · rw [if_pos outside, if_neg (not_not_intro outside)]
      rfl
    · rw [if_neg outside, if_pos outside]
      rfl

theorem decimalLaw (nonneg : 0 ≤ core.memory.index) (value : Int) : core.DecimalLaw value := by
  have outcome := putDecimal_eq nonneg value
  constructor
  case refused =>
    intro fault after failed
    rw [outcome] at failed
    split at failed
    · cases failed
      exact ⟨rfl, .inl rfl⟩
    · split at failed
      · cases failed
        exact ⟨rfl, .inr rfl⟩
      · cases failed
  case badValue =>
    rw [outcome]
    split
    next large => simp [large, Fault.kind]
    next small =>
      split
      · simp [small, Fault.kind]
      · simp [small]
  case badWindow =>
    rw [outcome]
    split
    next large =>
      simp [Fault.kind]
      omega
    next small =>
      split
      next outside =>
        simp [Fault.kind, outside]
        omega
      next inside => simp [inside]
  case stored =>
    intro positive small inside
    rw [if_neg (by omega), if_neg (by omega)] at outcome
    have room : core.memory.index + (Memory.digitBytes value).length ≤
        (Length.number Memory.cellCount).count := by
      simp only [Memory.digitBytes, List.length_cons, List.length_nil, Length.count_number,
        Memory.cellCount]
      omega
    have byte (place : Nat) (covered : place < 3) :=
      core.memory.ram.byteAt_overwriteAt_add nonneg room covered
    have hundreds := byte 0 (by decide)
    have tens := byte 1 (by decide)
    have ones := byte 2 (by decide)
    simp only [Memory.digitBytes, List.getD_cons_zero, List.getD_cons_succ, Nat.cast_zero,
      Nat.cast_one, Nat.cast_ofNat, add_zero] at hundreds tens ones
    have hundredsDigit := Word.toNat_lowByte (value / 100)
    have tensDigit := Word.toNat_lowByte (value / 10 % 10)
    have onesDigit := Word.toNat_lowByte (value % 10)
    rw [← hundreds] at hundredsDigit
    rw [← tens] at tensDigit
    rw [← ones] at onesDigit
    refine ⟨_, outcome, ?_, ?_, ?_, ?_⟩
    · rw [Memory.digitBytes, hundredsDigit, tensDigit, onesDigit]
      omega
    · rw [Memory.digitBytes]
      omega
    · rw [Memory.digitBytes]
      omega
    · intro address addressNonneg free
      rw [core.memory.ram.byteAt_overwriteAt nonneg room addressNonneg, if_neg]
      · rfl
      · simp only [Memory.digitBytes, List.length_cons, List.length_nil]
        omega

end Core

namespace Machine

variable {machine : Machine}

/-- How a machine moves bytes between its registers and its memory. -/
structure TransferLaw (machine : Machine) (now : Binary64) : Prop where
  stores : ∀ x : Fin 16, machine.core.memory.index + x.val ≤ 0xFFF →
    ∃ after, (Instruction.storing x).execute now machine.core = .ok () after ∧
      machine.core.Stored x after
  loads : ∀ x : Fin 16, machine.core.memory.index + x.val ≤ 0xFFF →
    ∃ after, (Instruction.loading x).execute now machine.core = .ok () after ∧
      machine.core.Loaded x after
  /-- A cycle does the same, even if it stores registers over its own instruction. -/
  cycleStores : ∀ (x : Fin 16) (readings : Readings),
    machine.core.Reaches (.storing x) → machine.core.memory.index + x.val ≤ 0xFFF →
    machine.core.Stored x (machine.after (.step readings)).core
  cycleLoads : ∀ (x : Fin 16) (readings : Readings),
    machine.core.Reaches (.loading x) → machine.core.memory.index + x.val ≤ 0xFFF →
    machine.core.Loaded x (machine.after (.step readings)).core
  /-- Registers are restored from where they were stored, whatever else has changed. -/
  restores : ∀ (x : Fin 16) (stored later : Core),
    machine.core.memory.index + x.val ≤ 0xFFF →
    (Instruction.storing x).execute now machine.core = .ok () stored →
    later.memory.ram = stored.memory.ram → later.memory.index = machine.core.memory.index →
    ∃ restored, (Instruction.loading x).execute now later = .ok () restored ∧
      ∀ number ≤ x, restored.register number = machine.core.register number
  /-- Files that are stored in turn stand one after another, and are loaded in turn. -/
  inTurn : machine.core.dialect.movesIndex = true →
    ∀ files : List (Registers × Fin 16),
      machine.core.memory.index + Core.extent files ≤ 0x1000 →
      ∃ stored, Core.storeInTurn now files machine.core = .ok () stored ∧
        (∀ place < Core.extent files,
          stored.memory.byteAt (machine.core.memory.index + place) =
            (Core.dumps files).getD place 0) ∧
        (∀ address, 0 ≤ address →
          address < machine.core.memory.index ∨
            machine.core.memory.index + Core.extent files ≤ address →
          stored.memory.byteAt address = machine.core.memory.byteAt address) ∧
        ∀ later : Core, later.memory.ram = stored.memory.ram →
          later.memory.index = machine.core.memory.index → later.dialect.movesIndex = true →
          ∃ loaded, Core.loadInTurn now (files.map Prod.snd) later =
            .ok (files.map fun file => file.1.dump file.2.val) loaded
  decimal : ∀ value : Int, machine.core.DecimalLaw value

/-- Every machine that can be reached obeys the law of transfers. -/
theorem transferLaw_of_reachable (reachable : machine.Reachable) (now : Binary64) :
    machine.TransferLaw now := by
  have wellFormed := wellFormed_of_reachable reachable
  have nonneg := wellFormed.indexNonneg
  have small := wellFormed.indexSmall
  constructor
  case stores =>
    intro x inside
    have room : machine.core.memory.index + x.val < 0x1000 := Int.lt_add_one_iff.mpr inside
    exact ⟨_, Core.execute_storing _ _ now nonneg room, Core.stored_of_ram nonneg room rfl rfl rfl⟩
  case loads =>
    intro x inside
    have room : machine.core.memory.index + x.val < 0x1000 := Int.lt_add_one_iff.mpr inside
    exact ⟨_, Core.execute_loading _ _ now nonneg room, Core.loaded_of_registers rfl rfl rfl⟩
  case cycleStores =>
    intro x readings reaches inside
    have room : machine.core.memory.index + x.val < 0x1000 := Int.lt_add_one_iff.mpr inside
    have accepted : (Instruction.storing x).fault? readings.execution machine.core.fetched = none :=
      Core.accepted_transfer _ _ (.inl rfl) room
    rw [after_step_of_accepted wellFormed reaches accepted]
    exact Core.stored_of_ram nonneg room rfl rfl rfl
  case cycleLoads =>
    intro x readings reaches inside
    have room : machine.core.memory.index + x.val < 0x1000 := Int.lt_add_one_iff.mpr inside
    have accepted : (Instruction.loading x).fault? readings.execution machine.core.fetched = none :=
      Core.accepted_transfer _ _ (.inr rfl) room
    rw [after_step_of_accepted wellFormed reaches accepted]
    exact Core.loaded_of_registers rfl rfl rfl
  case restores =>
    intro x stored later inside executed ram index
    have room : machine.core.memory.index + x.val < 0x1000 := Int.lt_add_one_iff.mpr inside
    rw [Core.execute_storing _ _ now nonneg room] at executed
    cases executed
    have laterNonneg : 0 ≤ later.memory.index := by rwa [index]
    have laterRoom : later.memory.index + x.val < 0x1000 := by rwa [index]
    refine ⟨_, Core.execute_loading _ _ now laterNonneg laterRoom, ?_⟩
    intro number dumped
    have length := machine.core.registers.length_dump x
    have stands : later.memory.window (x.val + 1) = machine.core.registers.dump x.val := by
      rw [← length]
      apply Memory.window_of_overwritten nonneg _ ram index
      rw [length]
      omega
    have covered : number.val < (machine.core.registers.dump x.val).length := by
      rw [length]
      exact Nat.lt_succ_of_le dumped
    simp only [Core.register, stands, Registers.get_loadBytes]
    rw [← machine.core.registers.getD_dump dumped, List.getD_eq_getElem _ _ covered,
      List.getD_eq_getElem _ _ covered]
  case inTurn =>
    intro moves files fits
    have length := Core.length_dumps files
    rw [← length] at fits ⊢
    obtain ⟨registers, stored⟩ := Core.storeInTurn_eq now moves nonneg small fits
    refine ⟨_, stored, ?_, ?_, ?_⟩
    · intro place covered
      exact machine.core.memory.ram.byteAt_overwriteAt_add nonneg fits covered
    · intro address addressNonneg free
      have byte := machine.core.memory.ram.byteAt_overwriteAt nonneg fits addressNonneg
      rw [if_neg (by omega)] at byte
      exact byte
    · intro later ram index laterMoves
      have laterNonneg : 0 ≤ later.memory.index := by rwa [index]
      have laterFits : later.memory.index + (Core.dumps files).length ≤ 0x1000 := by rwa [index]
      apply Core.loadInTurn_eq now laterMoves laterNonneg laterFits
      exact Memory.window_of_overwritten nonneg fits ram index
  case decimal => exact Core.decimalLaw nonneg

/-- A machine of the classic dialect stores two registers over the instruction that stores them. -/
theorem transferLaw_overItself :
    let machine := unloadedClassic.run
      [.load [0x60, 0xAB, 0xA2, 0x04, 0xF1, 0x55], .step (.still .zero), .step (.still .zero)]
    let after := machine.after (.step (.still .zero))
    machine.Reachable ∧ machine.TransferLaw .zero ∧
      machine.core.dialect.movesIndex = true ∧ machine.core.Reaches (.storing 1) ∧
      machine.core.memory.index = machine.core.memory.programCounter ∧
      machine.core.Stored 1 after.core ∧
      after.core.memory.byteAt 0x204 = 0xAB ∧ after.core.memory.index = 0x206 := by
  intro machine after
  have created : create Mode.classic.dialect (.scripted []) .zero = .ok unloadedClassic := rfl
  have reachable : machine.Reachable := ⟨_, _, _, _, _, created, rfl⟩
  have law := transferLaw_of_reachable reachable .zero
  obtain ⟨ready, inside, word, moves, here, byte, index⟩ :
      machine.core.runState ≠ .awaitingKey ∧ machine.core.memory.programCounter ≤ 0xE9E ∧
        machine.core.nextWord = 0xF055 + 0x100 * ((1 : Fin 16).val : Int) ∧
        machine.core.dialect.movesIndex = true ∧
        machine.core.memory.index = machine.core.memory.programCounter ∧
        after.core.memory.byteAt 0x204 = 0xAB ∧ after.core.memory.index = 0x206 := by
    decide +kernel
  have found : Instruction.decode machine.core.nextWord = .ok (.storing 1) := by
    rw [word]
    exact (Instruction.decode_transfer 1).1
  have reaches : machine.core.Reaches (.storing 1) :=
    ⟨Core.fetches_of_le ready inside, found⟩
  have room : machine.core.memory.index + (1 : Fin 16).val ≤ 0xFFF := by
    rw [here]
    exact (Int.add_le_add_right inside 1).trans (by decide)
  exact ⟨reachable, law, moves, reaches, here,
    law.cycleStores 1 (.still .zero) reaches room, byte, index⟩

end Machine

end Chip8
