/-!
What a host is shown of an instruction: its word, its text and its cost.
-/

namespace Chip8

/-- An instruction as it is shown to a host. -/
structure Operation where
  word : String
  mnemonic : String
  operands : List String := []
  cycles : Int := 1
  size : Int := 2
  deriving DecidableEq, Repr

/-- The mnemonic followed by the operands, if there are any. -/
def Operation.text (operation : Operation) : String :=
  if operation.operands.isEmpty then operation.mnemonic
  else operation.mnemonic ++ " " ++ ", ".intercalate operation.operands

end Chip8
