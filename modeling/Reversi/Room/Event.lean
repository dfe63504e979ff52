import Reversi.Room.Rejection
import Reversi.Room.Status

/-!
# Reversi.Room.Event

What the journal records.

* `Event`: the kinds of events.
* `Event.level`, `Event.message`: how a journal line shows them.
-/

namespace Reversi

inductive Level where
  | debug
  | info
  | warning
  deriving DecidableEq

/-- Louder levels have greater numbers. -/
def Level.number : Level → Nat
  | debug => 10
  | info => 20
  | warning => 30

def Level.word : Level → String
  | debug => "DEBUG"
  | info => "INFO"
  | warning => "WARNING"

inductive Event where
  | created (room : Int) (mode : Mode)
  | seated (room : Int) (side : Side)
  | started (room : Int) (mode : Mode)
  | chosen (side : Side) (square : Square) (depth : Int)
  | played (room : Int) (side : Side) (square : Square) (flipped : Int)
  | finished (room : Int) (outcome : Outcome) (score : Score)
  | rejected (room : Int) (rejection : Rejection)
  deriving DecidableEq

namespace Event

def level : Event → Level
  | created _ _ => .info
  | seated _ _ => .info
  | started _ _ => .info
  | chosen _ _ _ => .debug
  | played _ _ _ _ => .debug
  | finished _ _ _ => .info
  | rejected _ _ => .warning

def message : Event → String
  | created room mode => s!"Created room {room} ({mode.word})"
  | seated room side => s!"Room {room}: player took the {side.label} seat"
  | started room mode => s!"Room {room}: game started ({mode.word})"
  | chosen side square depth =>
    s!"AI {side.label} chose {square.position.text} at depth {depth}"
  | played room side square flipped =>
    s!"Room {room}: {side.label} played {square.position.text} flipping {flipped}"
  | finished room outcome score =>
    s!"Room {room}: game over, {(Status.finished outcome).word} ({score.black}-{score.white})"
  | rejected room rejection => s!"Room {room}: rejected request: {rejection.message}"

end Event

end Reversi
