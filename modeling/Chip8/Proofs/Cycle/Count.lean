import Chip8.Cycle.Table
import Mathlib
/-!
The cycle count of any architecture.  A cycle is halted, or it fails, or it
gives a snapshot of the operation that it describes; in the last case alone the
cycles of the operation are added to the count.  So the count after a run is
the sum over the operations that have been described since the last reset.
-/

namespace Chip8

section History

variable {Item : Type}

/-- A history up to its last mark, with the mark. -/
def untilLast (marks : Item → Bool) (history : List Item) : List Item :=
  history.rdropWhile (!marks ·)

/-- What comes in a history after its last mark. -/
def sinceLast (marks : Item → Bool) (history : List Item) : List Item :=
  history.rtakeWhile (!marks ·)

theorem untilLast_append_sinceLast (marks : Item → Bool) (history : List Item) :
    untilLast marks history ++ sinceLast marks history = history :=
  List.rdropWhile_append_rtakeWhile

theorem unmarked_of_mem_sinceLast
    {marks : Item → Bool} {history : List Item} {item : Item}
    (membership : item ∈ sinceLast marks history) : marks item = false := by
  have unmarked := List.mem_rtakeWhile_imp membership
  simpa using unmarked

theorem untilLast_cases (marks : Item → Bool) (history : List Item) :
    untilLast marks history = [] ∨
      ∃ earlier mark, untilLast marks history = earlier ++ [mark] ∧ marks mark = true := by
  by_cases unmarked : untilLast marks history = []
  · exact .inl unmarked
  · refine .inr ⟨_, _, (List.dropLast_append_getLast unmarked).symm, ?_⟩
    have last := List.rdropWhile_last_not (!marks ·) history unmarked
    simpa [untilLast] using last

end History

namespace Architecture

variable {Problem Core Decoded View : Type}
  (architecture : Architecture Problem Core Decoded View)

/-- What is shown of a processor after an instruction can always be shown. -/
structure Shows : Prop where
  view : ∀ core, ∃ view after, architecture.view core = .ok view after
  redraw : ∀ core, ∃ redraw after, architecture.redraw core = .ok redraw after

/-- The part of a cycle that finds the address and asks whether the processor is halted. -/
def prepare (cycleCount : Int) : EStateM Problem Core (Int × Option (Snapshot View)) := do
  architecture.begin
  let address ← architecture.address
  let halted ← architecture.halted? cycleCount address
  return (address, halted)

/-- A cycle finds the processor halted. -/
def halts (processor : Counted Core) : Bool :=
  match architecture.prepare processor.cycleCount processor.core with
  | .ok (_, some _) _ => true
  | .ok (_, none) _ | .error _ _ => false

/-- The operation that a cycle describes, if it is not halted and nothing fails before. -/
def described? (processor : Counted Core) : Option Operation :=
  match architecture.prepare processor.cycleCount processor.core with
  | .ok (_, none) core =>
      match architecture.carryOut core with
      | .ok operation _ => some operation
      | .error _ _ => none
  | .ok (_, some _) _ | .error _ _ => none

variable {architecture} {processor : Counted Core}

theorem step_eq_prepare (processor : Counted Core) :
    architecture.step processor =
      match architecture.prepare processor.cycleCount processor.core with
      | .ok (_, some snapshot) core => .ok snapshot ⟨core, processor.cycleCount⟩
      | .ok (address, none) core =>
          match architecture.carryOut core with
          | .ok operation after =>
              architecture.conclude address operation ⟨after, processor.cycleCount⟩
          | .error problem after => .error problem ⟨after, processor.cycleCount⟩
      | .error problem core => .error problem ⟨core, processor.cycleCount⟩ := by
  simp only [step, prepare, bind, EStateM.bind, Counted.onCore, Counted.count]
  cases architecture.begin processor.core with
  | error problem core => rfl
  | ok _ begun =>
      simp only
      cases architecture.address begun with
      | error problem core => rfl
      | ok address found =>
          simp only
          cases architecture.halted? processor.cycleCount address found with
          | error problem core => rfl
          | ok halted core =>
              cases halted with
              | some snapshot => rfl
              | none =>
                  cases carried : architecture.carryOut core <;>
                    simp only [pure, EStateM.pure, EStateM.bind, Counted.onCore, carried]

/-- The snapshot of an operation is given after its cycles have been added. -/
theorem exists_conclude_eq_ok
    (shows : architecture.Shows) (address : Int) (operation : Operation)
    (processor : Counted Core) :
    ∃ snapshot core, architecture.conclude address operation processor =
        .ok snapshot ⟨core, processor.cycleCount + operation.cycles⟩ ∧
      snapshot.operation = operation ∧
      snapshot.cycleCount = processor.cycleCount + operation.cycles := by
  obtain ⟨view, viewed, shown⟩ := shows.view processor.core
  obtain ⟨redraw, asked, answered⟩ := shows.redraw viewed
  simp only [conclude, bind, EStateM.bind, Counted.addCycles, Counted.onCore, Counted.count, shown,
    answered]
  exact ⟨_, _, rfl, rfl, rfl⟩

variable (architecture) (processor) in
/-- The ways in which a cycle of an architecture that can be shown ends. -/
inductive Ending : EStateM.Result Problem (Counted Core) (Snapshot View) → Prop where
  | halted {snapshot core} :
      architecture.halts processor = true → architecture.described? processor = none →
      Ending (.ok snapshot ⟨core, processor.cycleCount⟩)
  | failed {problem core} :
      architecture.described? processor = none →
      Ending (.error problem ⟨core, processor.cycleCount⟩)
  | described {operation snapshot core} :
      architecture.halts processor = false →
      architecture.described? processor = some operation →
      snapshot.operation = operation →
      snapshot.cycleCount = processor.cycleCount + operation.cycles →
      Ending (.ok snapshot ⟨core, processor.cycleCount + operation.cycles⟩)

theorem ending_step (shows : architecture.Shows) (processor : Counted Core) :
    architecture.Ending processor (architecture.step processor) := by
  rw [step_eq_prepare]
  cases prepared : architecture.prepare processor.cycleCount processor.core with
  | error problem core =>
      refine .failed ?_
      simp only [described?, prepared]
  | ok found core =>
      obtain ⟨address, halted⟩ := found
      cases halted with
      | some snapshot =>
          refine .halted ?_ ?_
          · simp only [halts, prepared]
          · simp only [described?, prepared]
      | none =>
          have running : architecture.halts processor = false := by
            simp only [halts, prepared]
          cases carriedOut : architecture.carryOut core with
          | error problem after =>
              simp only [carriedOut]
              refine .failed ?_
              simp only [described?, prepared, carriedOut]
          | ok operation after =>
              obtain ⟨snapshot, left, concluded, shown, counted⟩ :=
                exists_conclude_eq_ok shows address operation ⟨after, processor.cycleCount⟩
              simp only [carriedOut, concluded]
              refine .described running ?_ shown counted
              simp only [described?, prepared, carriedOut]

theorem ending_of_step
    (shows : architecture.Shows) {result : EStateM.Result Problem (Counted Core) (Snapshot View)}
    (stepped : architecture.step processor = result) : architecture.Ending processor result := by
  rw [← stepped]
  exact ending_step shows processor

/-- An operation is described by exactly the cycles that return and are not halted. -/
theorem described?_eq_some_iff (shows : architecture.Shows) {operation : Operation} :
    architecture.described? processor = some operation ↔
      architecture.halts processor = false ∧
        ∃ snapshot after, architecture.step processor = .ok snapshot after ∧
          snapshot.operation = operation := by
  cases stepped : architecture.step processor with
  | ok snapshot after =>
      cases ending_of_step shows stepped with
      | halted halts undescribed => simp [halts, undescribed]
      | described running described shown => simp [running, described, shown]
  | error problem after =>
      cases ending_of_step shows stepped with
      | failed undescribed => simp [undescribed]

end Architecture

/-- What may happen to a processor: a cycle, a reset, or any other change of its state. -/
inductive Turn (Problem Core Decoded View : Type) where
  | cycle (architecture : Architecture Problem Core Decoded View)
  | reset (renew : Core → Core)
  | change (update : Core → Core)

namespace Turn

variable {Problem Core Decoded View : Type}

def isReset : Turn Problem Core Decoded View → Bool
  | .reset _ => true
  | .cycle _ | .change _ => false

/-- The processor after a turn; a cycle that fails leaves one as well. -/
def after (processor : Counted Core) : Turn Problem Core Decoded View → Counted Core
  | .cycle architecture =>
      match architecture.step processor with
      | .ok _ next => next
      | .error _ next => next
  | .reset renew => ⟨renew processor.core, 0⟩
  | .change update => { processor with core := update processor.core }

def described? (processor : Counted Core) : Turn Problem Core Decoded View → Option Operation
  | .cycle architecture => architecture.described? processor
  | .reset _ | .change _ => none

/-- If the turn is a cycle, what it leads to can be shown. -/
def Shows : Turn Problem Core Decoded View → Prop
  | .cycle architecture => architecture.Shows
  | .reset _ | .change _ => True

theorem cycleCount_after
    {turn : Turn Problem Core Decoded View} (shows : turn.Shows) (goesOn : turn.isReset = false)
    (processor : Counted Core) :
    (turn.after processor).cycleCount =
      processor.cycleCount + ((turn.described? processor).toList.map (·.cycles)).sum := by
  cases turn with
  | cycle architecture =>
      rw [after, described?]
      cases stepped : architecture.step processor with
      | ok snapshot next =>
          cases Architecture.ending_of_step shows stepped with
          | halted _ undescribed => simp [undescribed]
          | described _ described => simp [described]
      | error problem next =>
          cases Architecture.ending_of_step shows stepped with
          | failed undescribed => simp [undescribed]
  | reset renew => cases goesOn
  | change update => simp [after, described?]

end Turn

namespace Counted

variable {Problem Core Decoded View : Type} (processor : Counted Core)

/-- The processor after a list of turns. -/
def afterTurns (turns : List (Turn Problem Core Decoded View)) : Counted Core :=
  turns.foldl Turn.after processor

theorem afterTurns_cons
    (turn : Turn Problem Core Decoded View) (turns : List (Turn Problem Core Decoded View)) :
    processor.afterTurns (turn :: turns) = (turn.after processor).afterTurns turns := rfl

theorem afterTurns_append (turns further : List (Turn Problem Core Decoded View)) :
    processor.afterTurns (turns ++ further) =
      (processor.afterTurns turns).afterTurns further :=
  List.foldl_append

/-- The operations that the cycles among some turns describe. -/
def describedIn (processor : Counted Core) : List (Turn Problem Core Decoded View) → List Operation
  | [] => []
  | turn :: turns =>
      (turn.described? processor).toList ++ (turn.after processor).describedIn turns

variable {turns : List (Turn Problem Core Decoded View)}

theorem cycleCount_afterTurns
    (shows : ∀ turn ∈ turns, turn.Shows) (goesOn : ∀ turn ∈ turns, turn.isReset = false)
    (processor : Counted Core) :
    (processor.afterTurns turns).cycleCount =
      processor.cycleCount + ((processor.describedIn turns).map (·.cycles)).sum := by
  induction turns generalizing processor with
  | nil => simp [afterTurns, describedIn]
  | cons turn turns inductionHypothesis =>
      obtain ⟨showsFirst, showsRest⟩ := List.forall_mem_cons.mp shows
      obtain ⟨firstGoesOn, restGoesOn⟩ := List.forall_mem_cons.mp goesOn
      have first := Turn.cycleCount_after showsFirst firstGoesOn processor
      have rest := inductionHypothesis showsRest restGoesOn (turn.after processor)
      rw [afterTurns_cons, rest, first, describedIn, List.map_append, List.sum_append, add_assoc]

/-- How the cycle count of a processor comes about. -/
structure CountLaw (start : Counted Core) (turns : List (Turn Problem Core Decoded View)) :
    Prop where
  /-- The count is the sum of the cycles described since the last reset. -/
  total : (start.afterTurns turns).cycleCount =
    (((start.afterTurns (untilLast Turn.isReset turns)).describedIn
      (sinceLast Turn.isReset turns)).map (·.cycles)).sum
  /-- Those are the cycles that return and are not halted. -/
  described : ∀ architecture : Architecture Problem Core Decoded View, architecture.Shows →
    ∀ operation, architecture.described? (start.afterTurns turns) = some operation ↔
      architecture.halts (start.afterTurns turns) = false ∧
        ∃ snapshot after, architecture.step (start.afterTurns turns) = .ok snapshot after ∧
          snapshot.operation = operation
  /-- Their snapshots show the count with their own cycles. -/
  shown : ∀ architecture : Architecture Problem Core Decoded View, architecture.Shows →
    ∀ snapshot after, architecture.step (start.afterTurns turns) = .ok snapshot after →
      architecture.halts (start.afterTurns turns) = false →
      snapshot.cycleCount = after.cycleCount

/-- The count is zero at the last reset, or else at the start. -/
theorem cycleCount_untilLast
    {start : Counted Core} (begins : start.cycleCount = 0)
    (turns : List (Turn Problem Core Decoded View)) :
    (start.afterTurns (untilLast Turn.isReset turns)).cycleCount = 0 := by
  rcases untilLast_cases Turn.isReset turns with empty | ⟨earlier, mark, last, isReset⟩
  · rw [empty]
    exact begins
  · rw [last, afterTurns_append]
    cases mark with
    | reset renew => rfl
    | cycle architecture => cases isReset
    | change update => cases isReset

theorem countLaw_of_shows
    {start : Counted Core} (begins : start.cycleCount = 0) (shows : ∀ turn ∈ turns, turn.Shows) :
    start.CountLaw turns where
  total := by
    have split := untilLast_append_sinceLast Turn.isReset turns
    have showsSince : ∀ turn ∈ sinceLast Turn.isReset turns, turn.Shows := by
      intro turn membership
      refine shows turn ?_
      rw [← split]
      exact List.mem_append_right _ membership
    have counted := cycleCount_afterTurns showsSince (fun turn => unmarked_of_mem_sinceLast)
      (start.afterTurns (untilLast Turn.isReset turns))
    rw [cycleCount_untilLast begins, Int.zero_add, ← afterTurns_append, split] at counted
    exact counted
  described _ shows _ := Architecture.described?_eq_some_iff shows
  shown := by
    intro architecture shows snapshot after stepped running
    cases Architecture.ending_of_step shows stepped with
    | halted halts =>
        rw [running] at halts
        cases halts
    | described _ _ _ counted => exact counted

end Counted

theorem TableProcessor.shows_architecture {size : Length} (table : List TableProcessor.Row) :
    (TableProcessor.architecture table :
      Architecture Fault (TableProcessor size) Int CounterView).Shows :=
  ⟨fun processor => ⟨_, processor, rfl⟩, fun processor => ⟨_, processor, rfl⟩⟩

end Chip8
