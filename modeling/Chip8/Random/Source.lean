import Chip8.Random.MersenneTwister
/-!
Where the random bytes come from: a script that is read round and round, or a
seeded generator.
-/

namespace Chip8.Random

/-- A source of random bytes, with its position. -/
inductive Source where
  | script (bytes : Array UInt8) (drawn : Nat)
  | generator (state : MersenneTwister)
  deriving DecidableEq, Repr

namespace Source

/-- A source that gives the bytes of a script round and round; an empty script gives zeros. -/
def scripted (bytes : List UInt8) : Source :=
  .script bytes.toArray 0

def seeded (seed : Int) : Source :=
  .generator (MersenneTwister.ofSeed seed)

def next : Source → UInt8 × Source
  | script bytes drawn => (bytes.getD (drawn % bytes.size) 0, .script bytes (drawn + 1))
  | generator state =>
      let (byte, state) := state.nextByte 19937
      (byte, .generator state)

def draw : (count : Nat) → Source → List UInt8
  | 0, _ => []
  | count + 1, source =>
      let (byte, source) := source.next
      byte :: draw count source

end Source

end Chip8.Random
