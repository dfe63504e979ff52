import Std.Data.HashMap
import Reversi.Room.Basic

/-!
# Reversi.Lobby

Rooms by number. A room is made when it is first asked for and keeps its first configuration.

* `Lobby`: the rooms, depth and setup of new engines, and the number of player ids given out.
* `Lobby.find`, `Lobby.findOrCreate`: a room that must exist, and one that may be made;
  `Lobby.newRoom`: the room as it is made.
* `Lobby.join`: seats a new player. The player's id is used up even if the room is full.
* `Lobby.within`: a request to one room.
-/

namespace Reversi

structure Lobby where
  depth : Int
  rooms : Std.HashMap Int Room
  issued : Nat
  setup : Engine.Setup

/-- A player who got a seat. -/
structure Admission where
  player : String
  side : Side
  deriving DecidableEq

namespace Lobby

def empty (depth : Int) (setup : Engine.Setup := .standard) : Lobby := ⟨depth, ∅, 0, setup⟩

def size (l : Lobby) : Nat := l.rooms.size

def contains (l : Lobby) (room : Int) : Bool := l.rooms.contains room

def find (l : Lobby) (room : Int) : Except Rejection Room :=
  match l.rooms[room]? with
  | some r => .ok r
  | none => .error (.unknownRoom room)

def put (l : Lobby) (room : Int) (r : Room) : Lobby := { l with rooms := l.rooms.insert room r }

/-- A mode that is absent or says nothing asks for a game between people. -/
def modeOf : Option Datum → Except Unrecognized Mode
  | none => .ok .people
  | some d => if d.isEmpty then .ok .people else Mode.ofDatum d

/-- An absent depth or depth 0 asks for the usual one. -/
def depthOf (l : Lobby) : Option Int → Int
  | none => l.depth
  | some d => if d = 0 then l.depth else d

def newRoom (l : Lobby) (room : Int) (mode : Mode) (depth : Option Int) : Room :=
  .empty room mode .start (l.depthOf depth) l.setup

/-- Mode and depth are looked at only when the room is new. -/
def findOrCreate (l : Lobby) (room : Int) (mode : Option Datum) (depth : Option Int) :
    Reply Lobby Room :=
  match l.rooms[room]? with
  | some r => ⟨l, [], .ok r⟩
  | none =>
    match modeOf mode with
    | .error u => ⟨l, [], .error (.unrecognized u)⟩
    | .ok m =>
      let r := l.newRoom room m depth
      ⟨l.put room r, [.created room m], .ok r⟩

def join (ids : Nat → String) (l : Lobby) (room : Int) (mode : Option Datum)
    (depth : Option Int) : Reply Lobby Admission :=
  let made := l.findOrCreate room mode depth
  match made.answer with
  | .error e => ⟨made.state, made.events, .error e⟩
  | .ok r =>
    let player := ids made.state.issued
    let reply := r.join player
    ⟨{ made.state.put room reply.state with issued := made.state.issued + 1 },
      made.events ++ reply.events, reply.answer.map fun side => ⟨player, side⟩⟩

def within {α : Type} (l : Lobby) (room : Int) (request : Room → Reply Room α) :
    Reply Lobby α :=
  match l.find room with
  | .error e => ⟨l, [], .error (.rejected e)⟩
  | .ok r =>
    let reply := request r
    ⟨l.put room reply.state, reply.events, reply.answer⟩

end Lobby

end Reversi
