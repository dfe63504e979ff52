/-!
# Reversi.Random.Twister

The Mersenne Twister MT19937: a stream of 32-bit words with a state of 624 words.

* `Twister.ofWords`: the state that a list of key words makes.
* `Twister.ofSeed`: the state that an integer makes, by the words of its absolute value.
* `Twister.next32`: the next word.
* `Twister.next64`: two words as one, the first one being the low half.
-/

namespace Reversi

structure Twister where
  words : Vector UInt32 624
  /-- How many words of the current block were given out. -/
  used : Nat

namespace Twister

def word (v : Vector UInt32 624) (i : Nat) : UInt32 := v.get (Fin.ofNat 624 i)

def put (v : Vector UInt32 624) (i : Nat) (x : UInt32) : Vector UInt32 624 :=
  v.set (Fin.ofNat 624 i).val x (Fin.ofNat 624 i).isLt

/-- The block that one word makes. -/
def ofWord (seed : UInt32) : Vector UInt32 624 :=
  (List.range 623).foldl
    (fun v i =>
      let p := word v i
      let x : UInt32 := (p ^^^ (p >>> 30)) * 1812433253 + (i + 1).toUInt32
      put v (i + 1) x)
    (Vector.replicate 624 seed)

/-- After the last place the first one takes over the last word. -/
def wrap (v : Vector UInt32 624) (i : Nat) : Vector UInt32 624 × Nat :=
  if i ≥ 624 then (put v 0 (word v 623), 1) else (v, i)

/-- One pass that mixes the key words in; `j` walks along the key. -/
def mixKey (key : Array UInt32) :
    Nat → Vector UInt32 624 → Nat → Nat → Vector UInt32 624 × Nat
  | 0, v, i, _ => (v, i)
  | n + 1, v, i, j =>
    let p := word v (i - 1)
    let x := (word v i ^^^ ((p ^^^ (p >>> 30)) * 1664525)) + key.getD j 0 + j.toUInt32
    let (v, i) := wrap (put v i x) (i + 1)
    mixKey key n v i (if j + 1 ≥ key.size then 0 else j + 1)

/-- The pass that ends the mixing. -/
def mixPlaces : Nat → Vector UInt32 624 → Nat → Vector UInt32 624
  | 0, v, _ => v
  | n + 1, v, i =>
    let p := word v (i - 1)
    let x := (word v i ^^^ ((p ^^^ (p >>> 30)) * 1566083941)) - i.toUInt32
    let (v, i) := wrap (put v i x) (i + 1)
    mixPlaces n v i

def ofWords (key : Array UInt32) : Twister :=
  let (v, i) := mixKey key (max 624 key.size) (ofWord 19650218) 1 0
  ⟨put (mixPlaces 623 v i) 0 0x80000000, 624⟩

/-- The 32-bit words of a number, lowest first; at least one. -/
def keyWords (n : Nat) : List UInt32 :=
  if h : n < 0x100000000 then [n.toUInt32]
  else n.toUInt32 :: keyWords (n / 0x100000000)
termination_by n
decreasing_by omega

def ofSeed (seed : Int) : Twister := ofWords (keyWords seed.natAbs).toArray

/-- The next block of words. -/
def twist (v : Vector UInt32 624) : Vector UInt32 624 :=
  (List.range 624).foldl
    (fun v i =>
      let y := (word v i &&& 0x80000000) ||| (word v (i + 1) &&& 0x7fffffff)
      let z := word v (i + 397) ^^^ (y >>> 1)
      put v i (if y &&& 1 = 0 then z else z ^^^ 0x9908b0df))
    v

def temper (y : UInt32) : UInt32 :=
  let y := y ^^^ (y >>> 11)
  let y := y ^^^ ((y <<< 7) &&& 0x9d2c5680)
  let y := y ^^^ ((y <<< 15) &&& 0xefc60000)
  y ^^^ (y >>> 18)

def next32 (t : Twister) : UInt32 × Twister :=
  if t.used < 624 then (temper (word t.words t.used), { t with used := t.used + 1 })
  else
    let v := twist t.words
    (temper (word v 0), ⟨v, 1⟩)

def next64 (t : Twister) : UInt64 × Twister :=
  let (low, t) := t.next32
  let (high, t) := t.next32
  (low.toUInt64 ||| (high.toUInt64 <<< 32), t)

/-- The next `n` values of a generator. -/
def draw {α : Type} (next : Twister → α × Twister) : Nat → Twister → List α × Twister
  | 0, t => ([], t)
  | n + 1, t =>
    let (x, t) := next t
    let (xs, t) := draw next n t
    (x :: xs, t)

end Twister

end Reversi
