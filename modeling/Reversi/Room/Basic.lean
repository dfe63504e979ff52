import Reversi.Engine.Basic
import Reversi.Room.Event

/-!
# Reversi.Room.Basic

One room: who sits where, what was played and how the game stands.

* `Phase`: waiting, playing with one side due, or finished.
* `Phase.settle`: the phase when a side is due; it passes when only the other one can move.
* `Room.join`: gives a player the next open seat, Black first; the last one starts the game.
* `Room.move`: a player's placement and the engine's answers to it.
* `Reply`: what a request leaves behind: the new state, journal events and an answer.
-/

namespace Reversi

inductive Phase where
  | waiting
  /-- `passed` when the other side had to pass. -/
  | playing (turn : Side) (passed : Bool)
  | finished (outcome : Outcome)
  deriving DecidableEq

namespace Phase

def settle (b : Board) (due : Side) : Phase :=
  if b.hasLegalMove due then .playing due false
  else if b.hasLegalMove due.opponent then .playing due.opponent true
  else .finished b.outcome

def status : Phase → Status
  | waiting => .waiting
  | playing _ _ => .active
  | finished outcome => .finished outcome

def turn? : Phase → Option Side
  | playing turn _ => some turn
  | _ => none

/-- The side that has just passed. -/
def passed? : Phase → Option Side
  | playing turn true => some turn.opponent
  | _ => none

end Phase

structure MoveRecord where
  side : Side
  square : Square
  flipped : Int
  deriving DecidableEq

structure Room where
  id : Int
  /-- The engine holds the white seat. -/
  engine : Option Engine
  black : Option String
  white : Option String
  log : List MoveRecord
  board : Board
  phase : Phase
  /-- What is shown of the seats and of the log is kept beside them. -/
  seats : List Side
  moveCount : Nat
  lastMove : Option MoveRecord

/-- Why a request has no result. -/
inductive Refusal where
  | rejected (rejection : Rejection)
  | unrecognized (word : Unrecognized)
  | engine (fault : EngineFault)
  deriving DecidableEq

structure Reply (σ α : Type) where
  state : σ
  events : List Event
  answer : Except Refusal α

/-- A choice is recorded when there was something to choose from. -/
def Choice.events (c : Choice) : List Event :=
  if c.searched then [.chosen c.engine.side c.square c.engine.depth] else []

namespace Room

def mode (r : Room) : Mode := if r.engine.isSome then .engine else .people

def player (r : Room) : Side → Option String
  | .black => r.black
  | .white => r.white

def isTaken (r : Room) (side : Side) : Bool :=
  (r.player side).isSome || r.engine.any (·.side == side)

def takenSeats (r : Room) : List Side := [Side.black, Side.white].filter r.isTaken

def openSeats (r : Room) : List Side := [Side.black, Side.white].filter fun s => !r.isTaken s

def showSeats (r : Room) : Room := { r with seats := r.takenSeats }

def empty (id : Int) (mode : Mode) (board : Board) (depth : Int)
    (setup : Engine.Setup := .standard) : Room :=
  showSeats
    { id := id
      engine := if mode = .engine then some (.fresh .white depth setup) else none
      black := none
      white := none
      log := []
      board := board
      phase := .waiting
      seats := []
      moveCount := 0
      lastMove := none }

def seat (r : Room) (side : Side) (player : String) : Room :=
  match side with
  | .black => showSeats { r with black := some player }
  | .white => showSeats { r with white := some player }

/-- The first of the two seats that a player holds. -/
def seatOf (r : Room) (player : String) : Option Side :=
  if r.black = some player then some .black
  else if r.white = some player then some .white
  else none

/-- A placement and what it brings about; no check of who plays. -/
def record (r : Room) (side : Side) (p : Position) : Except IllegalPlacement (Room × List Event) :=
  match r.board.move side p with
  | .error e => .error e
  | .ok (square, board) =>
    let flipped : Int := (board.count side.disc : Int) - r.board.count side.disc - 1
    let log := r.log ++ [⟨side, square, flipped⟩]
    let phase := Phase.settle board side.opponent
    let ending :=
      match phase with
      | .finished outcome => [Event.finished r.id outcome board.score]
      | _ => []
    .ok
      ({ r with
          board := board
          log := log
          phase := phase
          moveCount := log.length
          lastMove := some ⟨side, square, flipped⟩ },
        .played r.id side square flipped :: ending)

/-- The engine that is due, if it is its turn. -/
def engineDue (r : Room) : Option Engine :=
  r.engine.filter fun e => r.phase.turn? == some e.side

/-- The engine plays on while it is due, at most `n` times. -/
def engineTurns : Nat → Room → Reply Room Unit
  | n, r =>
    match r.engineDue with
    | none => ⟨r, [], .ok ()⟩
    | some e =>
      match n with
      | 0 => ⟨r, [], .error (.engine (.search .exhausted))⟩
      | n + 1 =>
        match e.choose r.board none with
        | .error f => ⟨r, [], .error (.engine f)⟩
        | .ok c =>
          match { r with engine := some c.engine }.record e.side c.square.position with
          | .error i => ⟨r, c.events, .error (.rejected (.illegalMove i))⟩
          | .ok (r, events) =>
            let rest := engineTurns n r
            { rest with events := c.events ++ events ++ rest.events }

/-- Every placement fills a square, so the engine is never due more often. -/
def playEngine (r : Room) : Reply Room Unit := r.engineTurns r.board.empties

/-- All seats are taken and Black is due. -/
def start (r : Room) : Reply Room Unit :=
  let reply := playEngine { r with phase := .settle r.board .black }
  { reply with events := .started r.id r.mode :: reply.events }

def join (r : Room) (player : String) : Reply Room Side :=
  match r.openSeats with
  | [] => ⟨r, [], .error (.rejected (.roomFull r.id))⟩
  | [side] =>
    let reply := (r.seat side player).start
    ⟨reply.state, .seated r.id side :: reply.events, reply.answer.map fun _ => side⟩
  | side :: _ => ⟨r.seat side player, [.seated r.id side], .ok side⟩

/-- Whose placement it is, or why the player may not move. -/
def mover (r : Room) (player : String) : Except Rejection Side :=
  match r.phase with
  | .finished _ => .error .gameOver
  | .waiting => .error .notStarted
  | .playing turn _ =>
    match r.seatOf player with
    | none => .error (.notYourTurn (.notSeated r.id))
    | some side => if side = turn then .ok side else .error (.notYourTurn (.otherSide turn))

def move (r : Room) (player : String) (p : Position) : Reply Room Unit :=
  match r.mover player with
  | .error e => ⟨r, [], .error (.rejected e)⟩
  | .ok side =>
    match r.record side p with
    | .error i => ⟨r, [], .error (.rejected (.illegalMove i))⟩
    | .ok (next, events) =>
      let reply := next.playEngine
      { reply with events := events ++ reply.events }

end Room

end Reversi
