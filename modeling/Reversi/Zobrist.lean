import Reversi.Board.Basic
import Reversi.Random.Twister

/-!
# Reversi.Zobrist

Zobrist keys: every disc on every square has a random word, a board's key is the exclusive or
of the words of its discs, and one more word marks White as the side to move.

* `Zobrist`: the words; `Zobrist.ofSeed` draws them, square by square and Black before White.
* `Zobrist.hash`: the key of a board and of the side to move, if there is one.
* `Zobrist.standard`: the words that the engine uses.
* `Zobrist.pieceAt`: the two words of a square given by a signed index.
-/

namespace Reversi

structure Zobrist where
  /-- The word of a black and of a white disc on each square. -/
  pieces : Vector (UInt64 × UInt64) 64
  whiteToMove : UInt64

namespace Zobrist

def ofSeed (seed : Int) : Zobrist :=
  let (words, t) := Twister.draw Twister.next64 128 (Twister.ofSeed seed)
  let words := words.toArray
  ⟨Vector.ofFn fun i => (words.getD (2 * i.val) 0, words.getD (2 * i.val + 1) 0), t.next64.1⟩

/-- What a square contributes to the key. -/
def squareKey (z : Zobrist) (s : Square) : Cell → UInt64
  | .empty => 0
  | .black => (z.pieces.get s.index).1
  | .white => (z.pieces.get s.index).2

def sideKey (z : Zobrist) : Option Side → UInt64
  | some .white => z.whiteToMove
  | _ => 0

def hash (z : Zobrist) (b : Board) (toMove : Option Side) : UInt64 :=
  Square.all.foldl (fun key s => key ^^^ z.squareKey s (b.get s)) 0 ^^^ z.sideKey toMove

def pieceAt (z : Zobrist) (index : Int) : Except IndexFault (UInt64 × UInt64) :=
  (SignedIndex.resolve 64 index).map z.pieces.get

def standard : Zobrist := ofSeed 7777

end Zobrist

end Reversi
