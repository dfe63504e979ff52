import Reversi.Engine.Basic

/-!
# Reversi.Engine.Match

Two engines play each other.

* `Match`: the board, the side due, both engines and the placements made so far.
* `Match.turn`: the side due places a disc if it can; then the other side is due.
* `Match.play`: turns until the game is over or enough discs were placed.
-/

namespace Reversi

structure Match where
  board : Board
  due : Side
  black : Engine
  white : Engine
  placements : List (Side × Square)

namespace Match

def engine (m : Match) : Side → Engine
  | .black => m.black
  | .white => m.white

def setEngine (m : Match) (side : Side) (e : Engine) : Match :=
  match side with
  | .black => { m with black := e }
  | .white => { m with white := e }

def turn (m : Match) : Except EngineFault Match :=
  if m.board.hasLegalMove m.due then
    match (m.engine m.due).choose m.board none with
    | .error f => .error f
    | .ok c =>
      .ok { m.setEngine m.due c.engine with
        board := m.board.place m.due c.square
        due := m.due.opponent
        placements := m.placements ++ [(m.due, c.square)] }
  else .ok { m with due := m.due.opponent }

def playWithin (plies : Int) : Nat → Match → Except EngineFault Match
  | 0, m => .ok m
  | turns + 1, m =>
    if (m.placements.length : Int) < plies && !m.board.isTerminal then
      match m.turn with
      | .error f => .error f
      | .ok m => playWithin plies turns m
    else .ok m

/-- Of two turns in a row one places a disc. -/
def play (m : Match) (plies : Int) : Except EngineFault Match :=
  playWithin plies (2 * m.board.empties + 1) m

end Match

end Reversi
