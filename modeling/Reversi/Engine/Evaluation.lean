import Reversi.Rules

/-!
# Reversi.Engine.Evaluation

What a position is worth to a side.

* `Square.weight`: corners are good, the squares next to them bad; `weightAt` takes
  coordinates that need not be on the board.
* `Board.evaluate`: weights of one's own discs less those of the others, and twice the
  difference in mobility.
* `Board.finalValue`: the worth of a finished game, beyond every other value unless drawn.
* `Merit`: what a placement promises before it is searched, the key of move ordering.
* `Board.ordered`: the legal squares by falling merit; equal ones keep their order.
-/

namespace Reversi

def weights : Vector Int 64 := #v[
  100, -20, 10, 5, 5, 10, -20, 100,
  -20, -50, -2, -2, -2, -2, -50, -20,
  10, -2, -1, -1, -1, -1, -2, 10,
  5, -2, -1, -1, -1, -1, -2, 5,
  5, -2, -1, -1, -1, -1, -2, 5,
  10, -2, -1, -1, -1, -1, -2, 10,
  -20, -50, -2, -2, -2, -2, -50, -20,
  100, -20, 10, 5, 5, 10, -20, 100]

def Square.weight (s : Square) : Int := weights.get s.index

/-- Row and column are looked up one after the other, so each is a signed index of its own. -/
def weightAt (p : Position) : Except IndexFault Int :=
  match SignedIndex.resolve 8 p.row with
  | .error f => .error f
  | .ok row =>
    match SignedIndex.resolve 8 p.col with
    | .error f => .error f
    | .ok col => .ok (Square.weight ⟨row, col⟩)

namespace Board

/-- Gain of `side` from what stands on a square. -/
def stake (b : Board) (side : Side) (s : Square) : Int :=
  if b.get s = side.disc then s.weight
  else if b.get s = side.opponent.disc then -s.weight
  else 0

def positional (b : Board) (side : Side) : Int :=
  Square.all.foldl (fun sum s => sum + b.stake side s) 0

def mobility (b : Board) (side : Side) : Nat := (b.legalMoves side).length

def evaluate (b : Board) (side : Side) : Int :=
  b.positional side + 2 * ((b.mobility side : Int) - b.mobility side.opponent)

def winBonus : Int := 10000

/-- Own discs less the opponent's. -/
def lead (b : Board) (side : Side) : Int := (b.count side.disc : Int) - b.count side.opponent.disc

def finalValue (b : Board) (side : Side) : Int :=
  let lead := b.lead side
  if 0 < lead then winBonus + lead else if lead < 0 then -winBonus + lead else 0

end Board

/-! ## Move ordering -/

/-- The weight of a square and the number of discs that a placement there turns over. -/
structure Merit where
  weight : Int
  turned : Nat
  deriving DecidableEq

namespace Merit

/-- A turned disc counts a tenth of a unit of weight. -/
def tenths (m : Merit) : Int := 10 * m.weight + m.turned

/-- The merit in binary64 arithmetic, where a tenth is not exact. -/
def toFloat (m : Merit) : Float := Float.ofInt m.weight + 0.1 * Float.ofNat m.turned

end Merit

namespace Board

def merit (b : Board) (side : Side) (s : Square) : Merit := ⟨s.weight, (b.flips side s).length⟩

def meritAt (b : Board) (side : Side) (p : Position) : Except IndexFault Merit :=
  (weightAt p).map fun w => ⟨w, (b.flipsAt side p).length⟩

def ordered (b : Board) (side : Side) (moves : List Square) : List Square :=
  let keyed := moves.map fun s => ((b.merit side s).toFloat, s)
  (keyed.mergeSort fun x y => decide (y.1 ≤ x.1)).map (·.2)

theorem ordered_perm (b : Board) (side : Side) (moves : List Square) :
    (b.ordered side moves).Perm moves := by
  have h := (List.mergeSort_perm (moves.map fun s => ((b.merit side s).toFloat, s))
    fun x y => decide (y.1 ≤ x.1)).map (·.2)
  simpa [ordered, Function.comp_def] using h

end Board

end Reversi
