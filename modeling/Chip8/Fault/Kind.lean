/-!
The kinds of faults and how they specialise one another.  A host that only
handles a general kind also handles every kind below it, so each kind knows
its line of more general ones.
-/

namespace Chip8

/-- A kind of fault, from the most special to the most general. -/
inductive FaultKind where
  | programTooLarge
  | stackOverflow
  | stackUnderflow
  | unsupportedWord
  | addressRange
  /-- The program that runs cannot be continued. -/
  | machine
  /-- Any fault of this library's own kinds. -/
  | chip8
  | value
  | index
  | lookup
  | type
  | attribute
  | overflow
  | memory
  | missingFile
  | document
  | runtime
  | general
  | root
  deriving DecidableEq, Repr

namespace FaultKind

/-- A kind and the more general ones, nearest first. -/
def lineage : FaultKind → List FaultKind
  | programTooLarge => [programTooLarge, chip8, value, general, root]
  | stackOverflow => [stackOverflow, machine, chip8, runtime, general, root]
  | stackUnderflow => [stackUnderflow, machine, chip8, runtime, general, root]
  | unsupportedWord => [unsupportedWord, machine, chip8, runtime, general, root]
  | addressRange => [addressRange, machine, chip8, runtime, index, lookup, general, root]
  | machine => [machine, chip8, runtime, general, root]
  | chip8 => [chip8, general, root]
  | index => [index, lookup, general, root]
  | root => [root]
  | general => [general, root]
  | kind => [kind, general, root]

def specialises (kind base : FaultKind) : Bool :=
  kind.lineage.contains base

end FaultKind

end Chip8
