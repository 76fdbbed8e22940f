import Chip8.Fault
/-!
Whether the machine runs.  Waiting for a key cannot block the host, so it is a
state that the host sees and ends.
-/

namespace Chip8

/-- The run state of a machine. -/
inductive RunState where
  /-- Every cycle fetches and executes. -/
  | running
  /-- The host carries out single instructions. -/
  | step
  /-- Nothing happens until the host lets the machine run again. -/
  | awaitingKey
  deriving DecidableEq, Repr

namespace RunState

def name : RunState → String
  | running => "RUNNING"
  | step => "STEP"
  | awaitingKey => "PAUSED_AWAITING_KEY"

def all : List RunState := [running, step, awaitingKey]

def ofName? (name : String) : Option RunState :=
  all.find? (·.name = name)

/-- The run state of a name that must be one. -/
def named (name : String) : Except Fault RunState :=
  match ofName? name with
  | some state => .ok state
  | none => .error .unknownRunState

@[simp]
theorem ofName?_name (state : RunState) : ofName? state.name = some state := by
  cases state <;> decide

end RunState

end Chip8
