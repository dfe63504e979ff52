import Reversi.Board.Basic

/-!
# Reversi.Room.Status

How a room is played and how far its game has come, with the words that clients see.

* `Mode`: two people, or one person against the engine.
* `Status`: waiting for players, active, or finished with an outcome.
-/

namespace Reversi

inductive Mode where
  | people
  | engine
  deriving DecidableEq

namespace Mode

def word : Mode → String
  | people => "pvp"
  | engine => "ai"

def ofWord? (w : String) : Option Mode :=
  if w = "pvp" then some people else if w = "ai" then some engine else none

def ofDatum (d : Datum) : Except Unrecognized Mode :=
  match d.string?.bind ofWord? with
  | some m => .ok m
  | none => .error (.ofDatum d "Mode")

theorem ofWord?_word (m : Mode) : ofWord? m.word = some m := by
  cases m <;> decide

end Mode

inductive Status where
  | waiting
  | active
  | finished (outcome : Outcome)
  deriving DecidableEq

namespace Status

def all : List Status :=
  [waiting, active, finished (.won .black), finished (.won .white), finished .draw]

def word : Status → String
  | waiting => "waiting"
  | active => "active"
  | finished (.won side) => side.name ++ "_wins"
  | finished .draw => "draw"

def isTerminal : Status → Bool
  | finished _ => true
  | _ => false

def ofWord? (w : String) : Option Status := all.find? (·.word == w)

def ofDatum (d : Datum) : Except Unrecognized Status :=
  match d.string?.bind ofWord? with
  | some s => .ok s
  | none => .error (.ofDatum d "Status")

theorem ofWord?_word (s : Status) : ofWord? s.word = some s := by
  rcases s with _ | _ | ((_ | _) | _) <;> decide

end Status

end Reversi
