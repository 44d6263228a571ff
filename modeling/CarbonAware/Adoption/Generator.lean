/-!
# The random generator

A 64-bit xoshiro generator with the `++` output scrambler.  Its four words of state are consecutive outputs of a
SplitMix generator, so that every seed gives a state of its own (`SplitMix.mix`, `Generator.ofSeed`).
-/

namespace CarbonAware

/-- The word rotated left by `n` bits. -/
def rotateLeft (word : UInt64) (n : UInt64) : UInt64 := word <<< n ||| word >>> (64 - n)

namespace SplitMix

/-- What the state of the seeding generator grows by in every step. -/
def increment : UInt64 := 0x9e3779b97f4a7c15

/-- The output for a state of the seeding generator. -/
def mix (state : UInt64) : UInt64 :=
  let z := (state ^^^ state >>> 30) * 0xbf58476d1ce4e5b9
  let z := (z ^^^ z >>> 27) * 0x94d049bb133111eb
  z ^^^ z >>> 31

end SplitMix

/-- The state of a random generator. -/
structure Generator where
  s0 : UInt64
  s1 : UInt64
  s2 : UInt64
  s3 : UInt64
deriving DecidableEq, Repr

namespace Generator

/-- The generator of a seed. -/
def ofSeed (seed : UInt64) : Generator :=
  ⟨SplitMix.mix (seed + SplitMix.increment), SplitMix.mix (seed + 2 * SplitMix.increment),
    SplitMix.mix (seed + 3 * SplitMix.increment), SplitMix.mix (seed + 4 * SplitMix.increment)⟩

/-- The next random word, and the generator after it. -/
def next (g : Generator) : UInt64 × Generator :=
  let s2 := g.s2 ^^^ g.s0
  let s3 := g.s3 ^^^ g.s1
  (rotateLeft (g.s0 + g.s3) 23 + g.s0,
    ⟨g.s0 ^^^ s3, g.s1 ^^^ s2, s2 ^^^ g.s1 <<< 17, rotateLeft s3 45⟩)

end Generator

end CarbonAware
