import Reversi.Random.Twister
import Reversi.Text.Quoted

/-!
# Reversi.PlayerId

Random names for players: 128 bits of which six are fixed, as thirty-two hexadecimal digits.

* `PlayerId.mark`: sets the version 4 and the variant 10 in a number of 128 bits.
* `PlayerId.ofBits`: the name that 128 random bits make.
* `PlayerId.issue`, `PlayerId.stream`: the names that seeds and generators make.
-/

namespace Reversi
namespace PlayerId

/-- Bits 76 to 79 hold the version and bits 62 and 63 the variant. -/
def mark (bits : Nat) : Nat :=
  let low := bits % 0x4000000000000000
  let middle := (bits >>> 64) % 0x1000
  let high := (bits >>> 80) % 0x1000000000000
  (high <<< 80) + (4 <<< 76) + (middle <<< 64) + (2 <<< 62) + low

def ofBits (bits : Nat) : String := String.ofList (Text.hex 32 (mark bits))

def next (t : Twister) : String × Twister :=
  let (low, t) := t.next64
  let (high, t) := t.next64
  (ofBits ((high.toNat <<< 64) + low.toNat), t)

/-- The `n`-th name that belongs to a seed. -/
def issue (seed n : Nat) : String := (next (.ofSeed ((seed <<< 64) + n))).1

def stream (n : Nat) (t : Twister) : List String := (Twister.draw next n t).1

end PlayerId
end Reversi
