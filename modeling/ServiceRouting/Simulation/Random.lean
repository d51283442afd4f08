/-!
# Random numbers of a simulated process

A fixed sequence of 64-bit numbers that looks random: each position is spread over all words by an
odd factor, and its bits are then mixed twice. A process that draws them in turn behaves the same
each time, and whatever it does between two draws does not favour any index.
-/

namespace ServiceRouting.Simulation

/-- The odd factor that spreads positions, 2^64 divided by the golden ratio. -/
def spreadFactor : UInt64 := 0x9E3779B97F4A7C15

/-- Lets the high bits of a word act on its low bits, and the other way round. -/
def mixBits (word : UInt64) : UInt64 :=
  let once := (word ^^^ (word >>> 30)) * 0xBF58476D1CE4E5B9
  let twice := (once ^^^ (once >>> 27)) * 0x94D049BB133111EB
  twice ^^^ (twice >>> 31)

/-- The number at a position of the sequence. -/
def randomAt (position : Nat) : Nat := (mixBits ((position + 1).toUInt64 * spreadFactor)).toNat

end ServiceRouting.Simulation
