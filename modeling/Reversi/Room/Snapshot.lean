import Reversi.Room.Basic

/-!
# Reversi.Room.Snapshot

What everyone may see of a room.

* `Snapshot`: seats, board, turn and the last placement, without the players' names.
* `Room.snapshot`: the snapshot of a room.
* `Snapshot.note`: says that a side had to pass.
-/

namespace Reversi

structure Snapshot where
  room : Int
  mode : Mode
  board : Board
  status : Status
  turn : Option Side
  /-- The side that has just passed. -/
  passed : Option Side
  seats : List Side
  /-- Where the side due may place a disc, row by row. -/
  legalMoves : List Square
  moveCount : Nat
  lastMove : Option MoveRecord
  deriving DecidableEq

def Phase.legalMoves (b : Board) : Phase → List Square
  | playing turn _ => b.legalMoves turn
  | _ => []

def Room.snapshot (r : Room) : Snapshot where
  room := r.id
  mode := r.mode
  board := r.board
  status := r.phase.status
  turn := r.phase.turn?
  passed := r.phase.passed?
  seats := r.seats
  legalMoves := r.phase.legalMoves r.board
  moveCount := r.moveCount
  lastMove := r.lastMove

def Snapshot.note (s : Snapshot) : Option String :=
  s.passed.map fun side => s!"{side.label} has no legal move and passes"

end Reversi
