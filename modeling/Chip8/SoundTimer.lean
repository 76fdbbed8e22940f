import Chip8.Fault
/-!
The sound timer.  It goes down by one in every cycle that is completed, and a
tone sounds while it is not zero.
-/

namespace Chip8

/-- The number of cycles for which the tone still sounds. -/
structure SoundTimer where
  value : UInt8
  deriving DecidableEq, Repr

namespace SoundTimer

def leastDuration : Nat := 2

def silent : SoundTimer := ⟨0⟩

/-- Set a duration, of which the low eight bits count once it is long enough. -/
def store (value : Int) : Except Fault SoundTimer :=
  if value < leastDuration then .error (.soundTooShort value)
  else .ok ⟨Word.lowByte value⟩

def decrease (timer : SoundTimer) : SoundTimer :=
  if timer.value = 0 then timer else ⟨timer.value - 1⟩

def isActive (timer : SoundTimer) : Bool :=
  timer.value != 0

@[simp]
theorem toNat_decrease (timer : SoundTimer) :
    timer.decrease.value.toNat = timer.value.toNat - 1 := by
  unfold decrease
  split
  next silent => simp [silent]
  next sounding =>
    have positive : timer.value.toNat ≠ 0 := fun zero =>
      sounding (UInt8.toNat_inj.mp (by simpa using zero))
    rw [UInt8.toNat_sub_of_le]
    · rfl
    · exact UInt8.le_iff_toNat_le.mpr (by simp; omega)

theorem toNat_eq_zero_iff (timer : SoundTimer) : timer.value.toNat = 0 ↔ timer = silent := by
  cases timer
  simp [silent, ← UInt8.toNat_inj]

theorem isActive_iff (timer : SoundTimer) : timer.isActive = true ↔ 0 < timer.value.toNat := by
  simp [isActive, ← UInt8.toNat_inj, Nat.pos_iff_ne_zero]

end SoundTimer

end Chip8
