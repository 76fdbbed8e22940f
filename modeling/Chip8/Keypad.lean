import Chip8.Fault
/-!
The sixteen keys.  Only the host changes them.
-/

namespace Chip8

/-- Which keys are down. -/
structure Keypad where
  keys : Vector Bool 16
  deriving DecidableEq, Repr

namespace Keypad

def count : Nat := 16

def released : Keypad := ⟨Vector.replicate 16 false⟩

def set (keypad : Keypad) (key : Int) (pressed : Bool) : Except Fault Keypad :=
  if 0 ≤ key ∧ key < 16 then .ok ⟨keypad.keys.setIfInBounds key.toNat pressed⟩
  else .error (.keyOutside key)

def isDown (keypad : Keypad) (key : Int) : Except Fault Bool :=
  if inside : 0 ≤ key ∧ key < 16 then
    have bound : key.toNat < 16 := by omega
    .ok keypad.keys[key.toNat]
  else
    .error (.keyOutside key)

/-- The lowest key that is down. -/
def firstDown? (keypad : Keypad) : Option (Fin 16) :=
  (List.finRange 16).find? fun key => keypad.keys[key]

theorem firstDown?_eq_none_iff {keypad : Keypad} :
    keypad.firstDown? = none ↔ ∀ key : Fin 16, keypad.keys[key] = false := by
  simp [firstDown?]

end Keypad

end Chip8
