import Reversi.Rules

/-!
# Reversi.Room.Rejection

Why a request is rejected although it was well formed.

* `RejectionKind`: the kinds of reasons, with the name and the HTTP status code that go with them.
* `Rejection`: the reasons.
* `Rejection.message`: the wording that clients see.
* `Rejection.target`: the coordinates of an illegal placement.
-/

namespace Reversi

inductive RejectionKind where
  | general
  | roomFull
  | notYourTurn
  | gameOver
  | notStarted
  | illegalMove
  | unknownRoom
  deriving DecidableEq

namespace RejectionKind

def all : List RejectionKind :=
  [general, roomFull, notYourTurn, gameOver, notStarted, illegalMove, unknownRoom]

def name : RejectionKind → String
  | general => "OthelloError"
  | roomFull => "RoomFullError"
  | notYourTurn => "NotYourTurnError"
  | gameOver => "GameOverError"
  | notStarted => "GameNotStartedError"
  | illegalMove => "IllegalMoveError"
  | unknownRoom => "UnknownRoomError"

def ofName? (name : String) : Option RejectionKind := all.find? (·.name == name)

def status : RejectionKind → Nat
  | general => 400
  | roomFull => 403
  | notYourTurn => 403
  | gameOver => 409
  | notStarted => 409
  | illegalMove => 400
  | unknownRoom => 404

theorem ofName?_name (k : RejectionKind) : ofName? k.name = some k := by
  cases k <;> decide

end RejectionKind

/-- Why a player may not move now. -/
inductive TurnFault where
  | notSeated (room : Int)
  | otherSide (due : Side)
  deriving DecidableEq

inductive Rejection where
  | roomFull (room : Int)
  | notYourTurn (fault : TurnFault)
  | gameOver
  | notStarted
  | illegalMove (placement : IllegalPlacement)
  | unknownRoom (room : Int)
  deriving DecidableEq

def TurnFault.message : TurnFault → String
  | notSeated room => s!"Player is not seated in room {room}"
  | otherSide due => s!"It is {due.label}'s turn"

namespace Rejection

/-- What stands before the room and behind it. -/
def roomFullWords : String × String := ("Room ", " is full")

def unknownRoomWords : String × String := ("Room ", " not found")

def gameOverText : String := "Game already finished"

def notStartedText : String := "Waiting for another player to join"

def illegalMoveWords : String := "Illegal move at "

def kind : Rejection → RejectionKind
  | roomFull _ => .roomFull
  | notYourTurn _ => .notYourTurn
  | gameOver => .gameOver
  | notStarted => .notStarted
  | illegalMove _ => .illegalMove
  | unknownRoom _ => .unknownRoom

def message : Rejection → String
  | roomFull room => roomFullWords.1 ++ toString room ++ roomFullWords.2
  | notYourTurn fault => fault.message
  | gameOver => gameOverText
  | notStarted => notStartedText
  | illegalMove p =>
    illegalMoveWords ++ p.target.text ++ s!": {p.side.label} cannot play there"
  | unknownRoom room => unknownRoomWords.1 ++ toString room ++ unknownRoomWords.2

def target : Rejection → Option Position
  | illegalMove p => some p.target
  | _ => none

end Rejection

end Reversi
