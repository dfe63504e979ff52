import Reversi.Engine.Evaluation

/-!
# Reversi.Engine.Minimax

The plain value of a position, searched to a fixed depth without window, table or order.

* `Board.minimax`: the value for `player` with `toMove` to move. A forced pass costs one ply.
* `best`: the greatest or the least value of a list.
-/

namespace Reversi

/-- The greatest of `x` and a list of values, or the least one. -/
def best (maximize : Bool) (x : Int) (xs : List Int) : Int :=
  xs.foldl (fun a b => if maximize then max a b else min a b) x

namespace Board

def minimax (player : Side) : Nat → Side → Board → Int
  | 0, toMove, b =>
    if !b.hasLegalMove toMove && !b.hasLegalMove toMove.opponent then b.finalValue player
    else b.evaluate player
  | n + 1, toMove, b =>
    match (b.legalMoves toMove).map fun s =>
        minimax player n toMove.opponent (b.place toMove s) with
    | [] =>
      if b.hasLegalMove toMove.opponent then minimax player n toMove.opponent b
      else b.finalValue player
    | x :: xs => best (toMove == player) x xs

end Board

end Reversi
