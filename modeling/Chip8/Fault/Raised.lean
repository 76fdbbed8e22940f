import Chip8.Config.Value
import Chip8.Fault
/-!
Faults that a host makes by hand, from a kind and arguments.  A program that
is too large and a word that is no instruction keep their arguments; the other
kinds only turn them into a message.
-/

namespace Chip8

open Config (Scalar Value)

/-- A fault made by hand. -/
structure RaisedFault where
  kind : FaultKind
  message : Text
  attributes : List (String × Value)

namespace RaisedFault

def plainMessage : List Value → Text
  | [] => ""
  | [argument] => argument.plain
  | arguments => "(" ++ Text.join ", " (arguments.map Value.quoted) ++ ")"

/-- The word in an argument; what is no whole number cannot be written as one. -/
def wordOf : Value → Except FaultKind Int
  | .scalar (.integer word) => .ok word
  | .scalar (.truth value) => .ok (if value then 1 else 0)
  | .scalar (.float _) | .scalar (.text _) => .error .value
  | _ => .error .type

/-- The fault of a kind with arguments; a wrong number of them is a misuse of its own. -/
def make (kind : FaultKind) (arguments : List Value) : Except FaultKind RaisedFault :=
  match kind, arguments with
  | .programTooLarge, [size, available] =>
      .ok ⟨kind, Fault.programTooLargeText size.plain available.plain,
        [("size", size), ("available", available)]⟩
  | .programTooLarge, _ => .error .type
  | .unsupportedWord, [word] => do
      let number ← wordOf word
      return ⟨kind, Fault.unsupportedText Fault.noSuchInstruction number, [("opcode", word)]⟩
  | .unsupportedWord, [word, reason] => do
      let number ← wordOf word
      return ⟨kind, Fault.unsupportedText reason.plain number, [("opcode", word)]⟩
  | .unsupportedWord, _ => .error .type
  | kind, arguments => .ok ⟨kind, plainMessage arguments, []⟩

end RaisedFault

end Chip8
