import Reversi.Lobby
import Reversi.Web.Call
import Reversi.Web.Page

/-!
# Reversi.Web.Service

Calls answered by a lobby.

* `Service.admits`: the engine depths that clients may ask for.
* `Service.perform`: the answer to a call, the lobby after it and what the journal records.
* `Service.handle`: the same for a request as it arrives.
-/

namespace Reversi

/-- The lobby after a request, what was recorded, and the answer. -/
structure Exchange where
  lobby : Lobby
  events : List Event
  response : Response

namespace Service

def allowedDepths : List Int := [1, 2, 3, 4]

def depthList : String := String.intercalate ", " (allowedDepths.map toString)

/-- No depth is always fine. -/
def admits : Option Int → Bool
  | none => true
  | some d => allowedDepths.contains d

def wrongDepth (depth : Int) : Response :=
  .detail 422 (.str s!"Unsupported difficulty depth {depth}. Choose one of {depthList}.")

/-- The answer to a request to a room that brought no result. -/
def refuse (lobby : Lobby) (events : List Event) (room : Int) : Refusal → Exchange
  | .rejected e => ⟨lobby, events ++ [.rejected room e], .detail e.kind.status e.json⟩
  | .unrecognized _ => ⟨lobby, events, .internalError⟩
  | .engine _ => ⟨lobby, events, .internalError⟩

/-- The answer to a request to a room, made of its result and of the room after it. -/
def conclude {α : Type} (room : Int) (reply : Reply Lobby α) (render : α → Room → Json) :
    Exchange :=
  match reply.answer with
  | .error e => refuse reply.state reply.events room e
  | .ok a =>
    match reply.state.find room with
    | .error e => refuse reply.state reply.events room (.rejected e)
    | .ok r => ⟨reply.state, reply.events, .ok (render a r)⟩

def join (ids : Nat → String) (lobby : Lobby) (form : JoinForm) : Exchange :=
  conclude form.room (lobby.join ids form.room (some (.ofString form.mode.word)) form.depth)
    fun admission room => .obj [
      ("player_id", .str admission.player),
      ("room_id", .int form.room),
      ("mode", .str room.mode.word),
      ("seat", .str admission.side.name)]

def move (lobby : Lobby) (form : MoveForm) : Exchange :=
  conclude form.room
    (lobby.within form.room fun room => room.move form.player form.square.position)
    fun _ room => .obj [("status", .str "ok"), ("state", room.snapshot.json)]

def state (lobby : Lobby) (room : Int) : Exchange :=
  match lobby.find room with
  | .ok r => ⟨lobby, [], .ok r.snapshot.json⟩
  | .error e => refuse lobby [] room (.rejected e)

def perform (ids : Nat → String) (lobby : Lobby) : Call → Exchange
  | .page => ⟨lobby, [], ⟨200, .page Page.text⟩⟩
  | .health => ⟨lobby, [], .ok (.obj [("status", .str "ok"), ("rooms", .nat lobby.size)])⟩
  | .join form =>
    if admits form.depth then join ids lobby form
    else ⟨lobby, [], wrongDepth (form.depth.getD 0)⟩
  | .move form => move lobby form
  | .state room => state lobby room
  | .fixed response => ⟨lobby, [], response⟩
  | .refused response => ⟨lobby, [], response⟩

/-- `ids` supplies the names of new players, each one used once. -/
def handle (ids : Nat → String) (lobby : Lobby) (r : Request) : Exchange :=
  perform ids lobby (Call.ofRequest r)

end Service

end Reversi
