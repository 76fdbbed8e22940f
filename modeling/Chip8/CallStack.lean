import Chip8.Fault
/-!
The stack of return addresses, at most sixteen deep.  A call that does not fit
overwrites nothing.
-/

namespace Chip8

/-- The return addresses, latest first. -/
structure CallStack where
  frames : List Int
  deriving DecidableEq, Repr

namespace CallStack

def limit : Nat := 16

/-- The stack without addresses. -/
def empty : CallStack := ⟨[]⟩

def depth (stack : CallStack) : Nat :=
  stack.frames.length

/-- The addresses, oldest first. -/
def toList (stack : CallStack) : List Int :=
  stack.frames.reverse

def push (stack : CallStack) (address : Int) : Except Fault CallStack :=
  if stack.depth < limit then .ok ⟨address :: stack.frames⟩
  else .error (.stackOverflow address)

def pop (stack : CallStack) : Except Fault (Int × CallStack) :=
  match stack.frames with
  | [] => .error .stackUnderflow
  | address :: rest => .ok (address, ⟨rest⟩)

theorem push_of_room {stack : CallStack} (room : stack.depth < limit) (address : Int) :
    stack.push address = .ok ⟨address :: stack.frames⟩ :=
  if_pos room

theorem push_of_full {stack : CallStack} (full : ¬ stack.depth < limit) (address : Int) :
    stack.push address = .error (.stackOverflow address) :=
  if_neg full

@[simp]
theorem pop_nil : pop ⟨[]⟩ = .error .stackUnderflow := rfl

@[simp]
theorem pop_cons (address : Int) (rest : List Int) :
    pop ⟨address :: rest⟩ = .ok (address, ⟨rest⟩) := rfl

end CallStack

end Chip8
