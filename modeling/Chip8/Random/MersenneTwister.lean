/-!
The Mersenne Twister, a generator of 32-bit words with a period of `2^19937 - 1`.
It keeps 624 words.  When all of them have been given out they are twisted
into the next 624; a word is tempered before it is given out.
-/

namespace Chip8.Random

/-- The state of the generator: its words and how many of them are used up. -/
structure MersenneTwister where
  words : Array UInt32
  used : Nat
  deriving DecidableEq, Repr

namespace MersenneTwister

def degree : Nat := 624

/-- The distance between a word and the one that it is twisted with. -/
def middle : Nat := 397

/-- The words that follow from a seed, each from the one before it. -/
def spread (seed : UInt32) : Array UInt32 :=
  (List.range (degree - 1)).foldl (fun words index =>
    let last := words.getD index 0
    words.push ((1812433253 : UInt32) * (last ^^^ (last >>> 30)) + UInt32.ofNat (index + 1)))
    #[seed]

/--
Mix something into the word at a place, from the word before it.  A round
starts at the second word; at its end the last word becomes the first as well.
-/
def mix (factor : UInt32) (join : UInt32 → UInt32 → UInt32)
    (state : Array UInt32 × Nat) : Array UInt32 × Nat :=
  let (words, place) := state
  let previous := words.getD (place - 1) 0
  let mixed := join (words.getD place 0) ((previous ^^^ (previous >>> 30)) * factor)
  let words := words.setIfInBounds place mixed
  if place + 1 < degree then (words, place + 1)
  else (words.setIfInBounds 0 mixed, 1)

def ofKey (key : Array UInt32) : MersenneTwister :=
  let keyed := (List.range (max degree key.size)).foldl (fun state count =>
    let part := count % key.size
    mix 1664525 (fun word previous =>
      (word ^^^ previous) + key.getD part 0 + UInt32.ofNat part) state)
    (spread 19650218, 1)
  let (words, _) := (List.range (degree - 1)).foldl (fun state _ =>
    mix 1566083941 (fun word previous =>
      (word ^^^ previous) - UInt32.ofNat state.2) state)
    keyed
  ⟨words.setIfInBounds 0 0x80000000, degree⟩

/-- The 32-bit words of a natural number, least significant first. -/
def keyWords : (fuel value : Nat) → List UInt32
  | 0, _ => []
  | fuel + 1, value =>
      UInt32.ofNat value ::
        (if value < 0x100000000 then [] else keyWords fuel (value / 0x100000000))

/-- The generator for a seed, of which the size without the sign counts. -/
def ofSeed (seed : Int) : MersenneTwister :=
  let size := seed.natAbs
  ofKey (keyWords (size.log2 / 32 + 1) size).toArray

def twistWord (words : Array UInt32) (place : Nat) : UInt32 :=
  let joined :=
    (words.getD place 0 &&& 0x80000000) |||
      (words.getD ((place + 1) % degree) 0 &&& 0x7FFFFFFF)
  let twisted := words.getD ((place + middle) % degree) 0 ^^^ (joined >>> 1)
  if joined &&& 1 = 0 then twisted else twisted ^^^ 0x9908B0DF

def twist (words : Array UInt32) : Array UInt32 :=
  (List.range degree).foldl (fun words place =>
    words.setIfInBounds place (twistWord words place)) words

def temper (word : UInt32) : UInt32 :=
  let word := word ^^^ (word >>> 11)
  let word := word ^^^ ((word <<< 7) &&& 0x9D2C5680)
  let word := word ^^^ ((word <<< 15) &&& 0xEFC60000)
  word ^^^ (word >>> 18)

def next (generator : MersenneTwister) : UInt32 × MersenneTwister :=
  let generator :=
    if generator.used < degree then generator else ⟨twist generator.words, 0⟩
  (temper (generator.words.getD generator.used 0),
    { generator with used := generator.used + 1 })

/--
A byte: the top nine bits of a word, drawn again while they are more than
eight bits' worth.  The bits of the sequence obey a linear recurrence of
degree 19937, so that many words in a row cannot all be rejected.
-/
def nextByte : (fuel : Nat) → MersenneTwister → UInt8 × MersenneTwister
  | 0, generator => (0, generator)
  | fuel + 1, generator =>
      let (word, generator) := generator.next
      let top := (word >>> 23).toNat
      if top < 256 then (UInt8.ofNat top, generator) else nextByte fuel generator

end MersenneTwister

end Chip8.Random
