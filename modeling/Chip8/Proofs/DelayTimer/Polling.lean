import Chip8.Proofs.Machine.Clock
import Chip8.Proofs.Numeric.Exact
import Mathlib
/-!
The delay timer under polling.  Loading the value drops the part of a tick that
has passed, so a timer that is loaded often runs slow: by less than one tick for
each load that took something.  It never runs fast.
-/

namespace Chip8

open Numeric (Binary64)

/-- The clock has not gone back between two readings. -/
def Numeric.Binary64.NotAfter (earlier later : Binary64) : Prop :=
  ∃ first last : ℚ, earlier.toRat? = some first ∧ later.toRat? = some last ∧ first ≤ last

namespace DelayTimer

/-- A question for the value at present. -/
inductive Poll where
  | load (now : Binary64)
  | peek (now : Binary64)
  deriving DecidableEq, Repr

def Poll.now : Poll → Binary64
  | .load now | .peek now => now

def answer (timer : DelayTimer) : Poll → Except Fault UInt8
  | .load now => (timer.load now).map (·.value)
  | .peek now => timer.peek now

def afterPoll (timer : DelayTimer) : Poll → DelayTimer
  | .load now => timer.loaded now
  | .peek _ => timer

def afterPolls (timer : DelayTimer) (polls : List Poll) : DelayTimer :=
  polls.foldl afterPoll timer

def answers : DelayTimer → List Poll → List (Except Fault UInt8)
  | _, [] => []
  | timer, poll :: polls => timer.answer poll :: answers (timer.afterPoll poll) polls

/-- One if a poll takes something from the value, otherwise zero. -/
def consumption (timer : DelayTimer) (poll : Poll) : Nat :=
  if (timer.afterPoll poll).value < timer.value then 1 else 0

/-- The number of polls that take something from the value. -/
def consuming : DelayTimer → List Poll → Nat
  | _, [] => 0
  | timer, poll :: polls => timer.consumption poll + consuming (timer.afterPoll poll) polls

/-- The ticks between two readings are computed exactly. -/
def ExactTicks (reference now : Binary64) : Prop :=
  ∃ first last : ℚ, reference.toRat? = some first ∧ now.toRat? = some last ∧
    ((now.sub reference).scale ticksPerSecond).toRat? = some (60 * (last - first))

/-- The ticks are computed exactly whenever a timer that has not run down is polled. -/
def ExactThroughout : DelayTimer → List Poll → Prop
  | _, [] => True
  | timer, poll :: polls =>
      (timer.value ≠ 0 → ExactTicks timer.reference poll.now) ∧
        ExactThroughout (timer.afterPoll poll) polls

/-- A multiple of `2 ^ -20` seconds that is smaller than `2 ^ 20` seconds. -/
def OnGrid (reading : Binary64) : Prop :=
  ∃ steps : Int, steps.natAbs < 2 ^ 40 ∧ reading.toRat? = some ((steps : ℚ) * 2 ^ (-20 : Int))

theorem afterPolls_append (timer : DelayTimer) (before after : List Poll) :
    timer.afterPolls (before ++ after) = (timer.afterPolls before).afterPolls after :=
  List.foldl_append

theorem answers_append (timer : DelayTimer) (before after : List Poll) :
    timer.answers (before ++ after) =
      timer.answers before ++ (timer.afterPolls before).answers after := by
  induction before generalizing timer with
  | nil => rfl
  | cons poll before inductionHypothesis =>
      exact congrArg (timer.answer poll :: ·) (inductionHypothesis (timer.afterPoll poll))

theorem length_answers (timer : DelayTimer) (polls : List Poll) :
    (timer.answers polls).length = polls.length := by
  induction polls generalizing timer with
  | nil => rfl
  | cons poll polls inductionHypothesis =>
      exact congrArg (· + 1) (inductionHypothesis (timer.afterPoll poll))

/-- What a load leaves has not gained anything, and it refers to an old or a new reading. -/
theorem loaded_cases (timer : DelayTimer) (now : Binary64) :
    (timer.loaded now).value ≤ timer.value ∧
      ((timer.loaded now).reference = timer.reference ∨ (timer.loaded now).reference = now) := by
  by_cases stopped : timer.value = 0
  · rw [DelayTimer.loaded, load, if_pos stopped]
    exact ⟨UInt8.le_refl _, .inl rfl⟩
  cases counted : ticks timer.reference now with
  | ok count =>
      obtain ⟨present, loaded, lower, reference⟩ := load_of_ticksDefined ⟨count, counted⟩
      rw [DelayTimer.loaded, loaded]
      exact ⟨lower, reference⟩
  | error fault =>
      have failed : timer.load now = .error fault := by
        rw [load, if_neg stopped, project, counted]
        rfl
      rw [DelayTimer.loaded, failed]
      exact ⟨UInt8.le_refl _, .inl rfl⟩

theorem afterPoll_cases (timer : DelayTimer) (poll : Poll) :
    (timer.afterPoll poll).value ≤ timer.value ∧
      ((timer.afterPoll poll).reference = timer.reference ∨
        (timer.afterPoll poll).reference = poll.now) := by
  cases poll with
  | load now => exact timer.loaded_cases now
  | peek now => exact ⟨UInt8.le_refl _, .inl rfl⟩

theorem value_afterPolls_le (timer : DelayTimer) (polls : List Poll) :
    (timer.afterPolls polls).value ≤ timer.value := by
  induction polls generalizing timer with
  | nil => exact UInt8.le_refl _
  | cons poll polls inductionHypothesis =>
      exact UInt8.le_trans (inductionHypothesis (timer.afterPoll poll))
        (timer.afterPoll_cases poll).1

theorem value_of_answer_load
    {timer : DelayTimer} {now : Binary64} {value : UInt8}
    (answered : timer.answer (.load now) = .ok value) : (timer.loaded now).value = value := by
  rw [DelayTimer.loaded]
  cases loaded : timer.load now with
  | ok present =>
      simp only [answer, loaded, Except.map] at answered
      exact Except.ok.inj answered
  | error fault =>
      simp only [answer, loaded, Except.map] at answered
      cases answered

theorem toNat_pos_of_running {value : UInt8} (running : value ≠ 0) : 0 < value.toNat := by
  apply Nat.pos_of_ne_zero
  intro zero
  exact running (UInt8.toNat_inj.mp zero)

theorem floor_nonneg_of_ordered {first last : ℚ} (ordered : first ≤ last) :
    0 ≤ ⌊60 * (last - first)⌋ :=
  Int.floor_nonneg.mpr (mul_nonneg (by norm_num) (sub_nonneg.mpr ordered))

theorem ticks_of_exactTicks
    {reference now : Binary64} {first last : ℚ} (exact : ExactTicks reference now)
    (reached : reference.toRat? = some first) (present : now.toRat? = some last)
    (ordered : first ≤ last) : ticks reference now = .ok ⌊60 * (last - first)⌋ := by
  obtain ⟨_, _, reached', present', elapsed⟩ := exact
  cases reached.symm.trans reached'
  cases present.symm.trans present'
  have truncated := Binary64.truncate?_of_nonneg elapsed
    (mul_nonneg (by norm_num) (sub_nonneg.mpr ordered))
  simp only [ticks, truncated]

variable {timer : DelayTimer} {now : Binary64} {full : Int} {first reached last : ℚ} {lost : Nat}

theorem load_of_exactTicks
    (reference : timer.reference.toRat? = some first) (present : now.toRat? = some last)
    (ordered : first ≤ last) (exact : timer.value ≠ 0 → ExactTicks timer.reference now) :
    ∃ next, timer.load now = .ok next ∧
      (next.value.toNat : Int) = max (timer.value.toNat - ⌊60 * (last - first)⌋) 0 ∧
      (next = timer ∨ next.reference = now ∧ next.value < timer.value) := by
  have passed := floor_nonneg_of_ordered ordered
  by_cases stopped : timer.value = 0
  · have zero : timer.value.toNat = 0 := congrArg UInt8.toNat stopped
    rw [load, if_pos stopped]
    refine ⟨timer, rfl, ?_, .inl rfl⟩
    omega
  have counted := ticks_of_exactTicks (exact stopped) reference present ordered
  simp only [load, if_neg stopped, project, counted, bind, Except.bind, pure, Except.pure]
  by_cases early : ⌊60 * (last - first)⌋ ≤ 0
  · rw [if_pos early, Word.lowByte_toNat]
    refine ⟨timer, rfl, ?_, .inl rfl⟩
    omega
  · rw [if_neg early]
    have small := timer.value.toNat_lt
    have positive := toNat_pos_of_running stopped
    have byte := Word.toNat_lowByte (max ((timer.value.toNat : Int) - ⌊60 * (last - first)⌋) 0)
    refine ⟨_, rfl, ?_, .inr ⟨rfl, ?_⟩⟩
    · simp only
      omega
    · rw [UInt8.lt_iff_toNat_lt]
      simp only
      omega

/-- What remains of a value after some time, if each of `lost` loads has dropped part of a tick. -/
structure Timely (full : Int) (elapsed : ℚ) (lost : Nat) (value : UInt8) : Prop where
  notFast : max 0 (full - ⌊60 * elapsed⌋) ≤ value.toNat
  notSlow : value = 0 ∨ 60 * elapsed - (lost + 1) < full - value.toNat

/-- The timer stands as it should at its reference time. -/
structure OnTime (full : Int) (first : ℚ) (lost : Nat) (timer : DelayTimer) (reached : ℚ) :
    Prop where
  reference : timer.reference.toRat? = some reached
  notFast : (full : ℚ) - timer.value.toNat ≤ 60 * (reached - first)
  notSlow : timer.value = 0 ∨ 60 * (reached - first) ≤ full - timer.value.toNat + lost

theorem OnTime.load
    (onTime : OnTime full first lost timer reached) (present : now.toRat? = some last)
    (ordered : reached ≤ last) (exact : timer.value ≠ 0 → ExactTicks timer.reference now) :
    ∃ next, timer.load now = .ok next ∧ Timely full (last - first) lost next.value ∧
      (next = timer ∨ next.reference = now ∧ next.value < timer.value) := by
  obtain ⟨next, loaded, value, moved⟩ :=
    load_of_exactTicks onTime.reference present ordered exact
  have floor := Int.floor_le (60 * (last - reached))
  have ceiling := Int.lt_floor_add_one (60 * (last - reached))
  refine ⟨next, loaded, ⟨?_, ?_⟩, moved⟩
  · have remains : full - timer.value.toNat + ⌊60 * (last - reached)⌋ ≤ ⌊60 * (last - first)⌋ := by
      rw [Int.le_floor]
      push_cast
      linarith [onTime.notFast]
    omega
  · by_cases stopped : next.value = 0
    · exact .inl stopped
    have positive := toNat_pos_of_running stopped
    have taken : (next.value.toNat : Int) = timer.value.toNat - ⌊60 * (last - reached)⌋ := by omega
    have running : timer.value ≠ 0 := by
      intro zero
      have nothing : timer.value.toNat = 0 := congrArg UInt8.toNat zero
      have passed := floor_nonneg_of_ordered ordered
      omega
    have takenRat : (next.value.toNat : ℚ) = timer.value.toNat - ⌊60 * (last - reached)⌋ := by
      exact_mod_cast taken
    right
    linarith [onTime.notSlow.resolve_left running]

/-- A poll that takes something drops less than one tick. -/
theorem OnTime.afterPoll
    {poll : Poll} (onTime : OnTime full first lost timer reached)
    (present : poll.now.toRat? = some last) (ordered : reached ≤ last)
    (exact : timer.value ≠ 0 → ExactTicks timer.reference poll.now) :
    ∃ next, OnTime full first (lost + timer.consumption poll) (timer.afterPoll poll) next := by
  have unchanged (same : timer.afterPoll poll = timer) :
      OnTime full first (lost + timer.consumption poll) (timer.afterPoll poll) reached := by
    rw [consumption, same, if_neg (UInt8.lt_irrefl _)]
    exact onTime
  cases poll with
  | peek now => exact ⟨reached, unchanged rfl⟩
  | load now =>
      obtain ⟨next, loaded, timely, moved⟩ := onTime.load present ordered exact
      rw [Poll.now] at loaded
      have after : timer.afterPoll (.load now) = next := by
        rw [DelayTimer.afterPoll, DelayTimer.loaded, loaded]
      rcases moved with same | ⟨reference, lower⟩
      · exact ⟨reached, unchanged (after.trans same)⟩
      rw [consumption, after, if_pos lower]
      refine ⟨last, reference ▸ present, ?_, ?_⟩
      · have bound : full - ⌊60 * (last - first)⌋ ≤ next.value.toNat :=
          (le_max_right _ _).trans timely.notFast
        have boundRat : (full : ℚ) - ⌊60 * (last - first)⌋ ≤ next.value.toNat := by
          exact_mod_cast bound
        linarith [Int.floor_le (60 * (last - first))]
      · rcases timely.notSlow with stopped | notSlow
        · exact .inl stopped
        · right
          push_cast
          linarith

theorem ordered_of_pairwise
    {readings : List Binary64} (reference : timer.reference.toRat? = some reached)
    (sorted : (timer.reference :: now :: readings).Pairwise Binary64.NotAfter) :
    ∃ last, now.toRat? = some last ∧ reached ≤ last := by
  obtain ⟨_, last, known, present, ordered⟩ := List.rel_of_pairwise_cons sorted List.mem_cons_self
  cases reference.symm.trans known
  exact ⟨last, present, ordered⟩

/-- The readings of the clock that are still to be compared have not gone back. -/
theorem pairwise_afterPoll
    {poll : Poll} {readings : List Binary64}
    (sorted : (timer.reference :: poll.now :: readings).Pairwise Binary64.NotAfter) :
    ((timer.afterPoll poll).reference :: readings).Pairwise Binary64.NotAfter := by
  rcases (timer.afterPoll_cases poll).2 with same | moved
  · rw [same]
    exact sorted.sublist ((List.sublist_cons_self _ _).cons_cons _)
  · rw [moved]
    exact sorted.tail

/-- Every poll of a timer is answered in time. -/
theorem timely_afterPolls
    {before : List Poll} {poll : Poll}
    (sorted : (timer.reference :: (before ++ [poll]).map Poll.now).Pairwise Binary64.NotAfter)
    (exact : timer.ExactThroughout (before ++ [poll]))
    (onTime : OnTime full first lost timer reached) (present : poll.now.toRat? = some last) :
    ∃ next, (timer.afterPolls before).load poll.now = .ok next ∧
      Timely full (last - first) (lost + timer.consuming before) next.value := by
  induction before generalizing timer lost reached with
  | nil =>
      obtain ⟨_, present', ordered⟩ := ordered_of_pairwise onTime.reference sorted
      cases present.symm.trans present'
      obtain ⟨next, loaded, timely, -⟩ := onTime.load present ordered exact.1
      exact ⟨next, loaded, timely⟩
  | cons earlier before inductionHypothesis =>
      obtain ⟨_, passed, ordered⟩ := ordered_of_pairwise onTime.reference sorted
      obtain ⟨next, kept⟩ := onTime.afterPoll passed ordered exact.1
      rw [consuming, ← Nat.add_assoc]
      exact inductionHypothesis (pairwise_afterPoll sorted) exact.2 kept

theorem Timely.eq_of_nothing_lost
    {elapsed : ℚ} {value : UInt8} (timely : Timely full elapsed 0 value) :
    (value.toNat : Int) = max 0 (full - ⌊60 * elapsed⌋) := by
  have notFast := timely.notFast
  rcases timely.notSlow with stopped | notSlow
  · have zero : value.toNat = 0 := congrArg UInt8.toNat stopped
    omega
  · have floor := Int.floor_le (60 * elapsed)
    have bound : (⌊60 * elapsed⌋ : ℚ) < (full - value.toNat + 1 : Int) := by
      push_cast at notSlow ⊢
      linarith
    have whole : ⌊60 * elapsed⌋ < full - value.toNat + 1 := by exact_mod_cast bound
    omega

theorem consuming_eq_zero {polls : List Poll} (peeks : ∀ now, .load now ∉ polls) :
    timer.consuming polls = 0 := by
  induction polls with
  | nil => rfl
  | cons poll polls inductionHypothesis =>
      cases poll with
      | load now => exact absurd List.mem_cons_self (peeks now)
      | peek now =>
          have later : ∀ now, .load now ∉ polls :=
            fun now member => peeks now (List.mem_cons_of_mem _ member)
          rw [consuming, consumption, afterPoll, if_neg (UInt8.lt_irrefl _),
            inductionHypothesis later]

/-- The ticks between readings on the grid need at most 47 bits. -/
theorem exactTicks_of_onGrid
    {reference : Binary64} (reached : OnGrid reference) (present : OnGrid now) :
    ExactTicks reference now := by
  obtain ⟨before, beforeSmall, reached⟩ := reached
  obtain ⟨after, afterSmall, present⟩ := present
  have difference : (after : ℚ) * 2 ^ (-20 : Int) - before * 2 ^ (-20 : Int) =
      (after - before : Int) * 2 ^ (-20 : Int) := by
    push_cast
    ring
  have product : (ticksPerSecond : ℚ) * (after * 2 ^ (-20 : Int) - before * 2 ^ (-20 : Int)) =
      (60 * (after - before) : Int) * 2 ^ (-20 : Int) := by
    simp only [ticksPerSecond]
    push_cast
    ring
  have representable (steps : Int) (short : steps.natAbs < 2 ^ 47) :
      Binary64.Representable ((steps : ℚ) * 2 ^ (-20 : Int)) :=
    ⟨steps, -20, short.trans (by decide), by decide, by decide, rfl⟩
  refine ⟨_, _, reached, present, ?_⟩
  have elapsed := Binary64.toRat?_sub present reached
    (difference ▸ representable _ (by omega))
  exact Binary64.toRat?_scale ticksPerSecond elapsed (product ▸ representable _ (by omega))

theorem exactThroughout_of_onGrid
    {polls : List Poll} (reference : OnGrid timer.reference)
    (readings : ∀ poll ∈ polls, OnGrid poll.now) : timer.ExactThroughout polls := by
  induction polls generalizing timer with
  | nil => trivial
  | cons poll polls inductionHypothesis =>
      have present := readings poll List.mem_cons_self
      refine ⟨fun _ => exactTicks_of_onGrid reference present, ?_⟩
      apply inductionHypothesis
      · rcases (timer.afterPoll_cases poll).2 with same | moved
        · rwa [same]
        · rwa [moved]
      · exact fun later member => readings later (List.mem_cons_of_mem _ member)

theorem answer_eq_load (timer : DelayTimer) (poll : Poll) :
    timer.answer poll = (timer.load poll.now).map (·.value) := by
  cases poll <;> rfl

/-- How a delay timer that has been set answers when it is polled. -/
structure PollingLaw (value : Int) (start : Binary64) : Prop where
  bounded : ∀ (polls : List Poll) (now : Binary64) (loaded : UInt8),
    ((store value start).afterPolls polls).answer (.load now) = .ok loaded →
    (loaded.toNat : Int) ≤ value % 256
  /-- No load gives more than an earlier one, even if the clock goes back. -/
  descending : ∀ (before between : List Poll) (now later : Binary64) (first second : UInt8),
    ((store value start).afterPolls before).answer (.load now) = .ok first →
    ((store value start).afterPolls (before ++ .load now :: between)).answer (.load later) =
      .ok second →
    second ≤ first
  peeked : ∀ (polls : List Poll) (now : Binary64),
    ((store value start).afterPolls polls).answer (.peek now) =
      ((store value start).afterPolls polls).answer (.load now)
  /-- Without a peek, all other answers are the same. -/
  unaffected : ∀ (before after : List Poll) (now : Binary64),
    ((store value start).answers (before ++ .peek now :: after)).eraseIdx before.length =
      (store value start).answers (before ++ after)
  /-- If the clock does not go back and the ticks are exact, every poll is answered in time. -/
  timely : ∀ (before : List Poll) (poll : Poll) (first last : ℚ),
    (start :: (before ++ [poll]).map Poll.now).Pairwise Binary64.NotAfter →
    (store value start).ExactThroughout (before ++ [poll]) →
    start.toRat? = some first → poll.now.toRat? = some last →
    ∃ remaining, ((store value start).afterPolls before).answer poll = .ok remaining ∧
      Timely (value % 256) (last - first) ((store value start).consuming before) remaining ∧
      ((∀ now, .load now ∉ before) →
        (remaining.toNat : Int) = max 0 (value % 256 - ⌊60 * (last - first)⌋))
  onGrid : ∀ polls : List Poll, OnGrid start → (∀ poll ∈ polls, OnGrid poll.now) →
    (store value start).ExactThroughout polls

/-- A timer that has just been set stands as it should. -/
theorem onTime_store
    {value : Int} {start : Binary64} (reference : start.toRat? = some first) :
    OnTime (value % 256) first 0 (store value start) first := by
  have full : ((store value start).value.toNat : ℚ) = (value % 256 : Int) := by
    exact_mod_cast Word.toNat_lowByte value
  constructor
  case reference => exact reference
  case notFast => simp [full]
  case notSlow =>
    right
    simp [full]

/-- Polling obeys its law, whatever has been stored and whatever the clock has shown. -/
theorem pollingLaw (value : Int) (start : Binary64) : PollingLaw value start := by
  constructor
  case bounded =>
    intro polls now loaded answered
    have full := Word.toNat_lowByte value
    have lower := (((store value start).afterPolls polls).loaded_cases now).1
    rw [value_of_answer_load answered] at lower
    have total := UInt8.le_iff_toNat_le.mp (UInt8.le_trans lower (value_afterPolls_le _ polls))
    simp only [store] at total
    omega
  case descending =>
    intro before between now later first second firstAnswer secondAnswer
    let timer := (store value start).afterPolls before
    have loaded : (timer.loaded now).value = first := value_of_answer_load firstAnswer
    rw [afterPolls_append] at secondAnswer
    have again : (((timer.loaded now).afterPolls between).loaded later).value = second :=
      value_of_answer_load secondAnswer
    have lower := (((timer.loaded now).afterPolls between).loaded_cases later).1
    rw [again] at lower
    exact loaded ▸ UInt8.le_trans lower (value_afterPolls_le _ between)
  case peeked => exact fun _ _ => rfl
  case unaffected =>
    intro before after now
    have place := length_answers (store value start) before
    rw [answers_append, answers_append, ← place, List.eraseIdx_append_of_length_le le_rfl,
      Nat.sub_self]
    rfl
  case timely =>
    intro before poll first last sorted exact reference present
    obtain ⟨next, loaded, timely⟩ :=
      timely_afterPolls sorted exact (onTime_store reference) present
    rw [Nat.zero_add] at timely
    refine ⟨next.value, ?_, timely, ?_⟩
    · rw [answer_eq_load, loaded]
      rfl
    · intro peeks
      rw [consuming_eq_zero peeks] at timely
      exact timely.eq_of_nothing_lost
  case onGrid =>
    intro polls reference readings
    exact exactThroughout_of_onGrid reference readings

/-- Of nearly four ticks in a sixteenth of a second, a load halfway drops the most of one. -/
example :
    let early := Binary64.finite false Binary64.fullSignificand (-57)
    let late := Binary64.finite false Binary64.fullSignificand (-56)
    (store 60 .zero).answers [.load early, .load late] = [.ok 59, .ok 58] ∧
      (store 60 .zero).answers [.peek early, .load late] = [.ok 59, .ok 57] := by
  decide +kernel

end DelayTimer

end Chip8
