import Reversi.Room.Snapshot

/-!
# Reversi.Proofs.Room.Renaming

Rooms do not care what players are called. With other names in the seats a room does the same, and
it shows the same.

* `Room.renamed`, `Reply.renamed`: the names in the seats replaced.
* `Room.snapshot_renamed`: nobody sees the names.
* `Room.join_renamed`: a seat is given under any name.
* `Room.move_renamed`: a placement is judged by whether names are equal, and by nothing else.
-/

namespace Reversi

def Room.renamed (f : String → String) (r : Room) : Room :=
  { r with black := r.black.map f, white := r.white.map f }

def Reply.renamed {α : Type} (f : String → String) (reply : Reply Room α) : Reply Room α :=
  { reply with state := reply.state.renamed f }

namespace Room

variable {f : String → String} {r : Room}

theorem mode_renamed (f : String → String) (r : Room) : (r.renamed f).mode = r.mode := rfl

theorem player_renamed (f : String → String) (r : Room) (side : Side) :
    (r.renamed f).player side = (r.player side).map f := by
  cases side <;> rfl

theorem isTaken_renamed (f : String → String) (r : Room) : (r.renamed f).isTaken = r.isTaken := by
  funext side
  rw [isTaken, isTaken, player_renamed, Option.isSome_map]
  rfl

theorem openSeats_renamed (f : String → String) (r : Room) :
    (r.renamed f).openSeats = r.openSeats := by
  rw [openSeats, openSeats, isTaken_renamed]

theorem showSeats_renamed (f : String → String) (r : Room) :
    (r.renamed f).showSeats = r.showSeats.renamed f := by
  rw [showSeats, showSeats, takenSeats, takenSeats, isTaken_renamed]
  rfl

theorem snapshot_renamed (f : String → String) (r : Room) :
    (r.renamed f).snapshot = r.snapshot := rfl

theorem seat_renamed (f : String → String) (r : Room) (side : Side) (player : String) :
    (r.renamed f).seat side (f player) = (r.seat side player).renamed f := by
  cases side with
  | black => exact showSeats_renamed f { r with black := some player }
  | white => exact showSeats_renamed f { r with white := some player }

/-! ## Placements -/

theorem board_renamed (f : String → String) (r : Room) : (r.renamed f).board = r.board := rfl

theorem engineDue_renamed (f : String → String) (r : Room) :
    (r.renamed f).engineDue = r.engineDue := rfl

theorem engine_renamed (f : String → String) (r : Room) (e : Option Engine) :
    { r.renamed f with engine := e } = ({ r with engine := e } : Room).renamed f := rfl

theorem record_renamed (f : String → String) (r : Room) (side : Side) (p : Position) :
    (r.renamed f).record side p = (r.record side p).map fun x => (x.1.renamed f, x.2) := by
  rw [record, record, board_renamed]
  cases r.board.move side p <;> rfl

theorem engineTurns_renamed (f : String → String) (n : Nat) (r : Room) :
    (r.renamed f).engineTurns n = (r.engineTurns n).renamed f := by
  induction n generalizing r with
  | zero =>
    rw [engineTurns, engineTurns, engineDue_renamed]
    cases r.engineDue <;> rfl
  | succ n ih =>
    rw [engineTurns, engineTurns, engineDue_renamed]
    cases r.engineDue with
    | none => rfl
    | some e =>
      have hchoose : e.choose (r.renamed f).board none = e.choose r.board none := rfl
      simp only [hchoose, engine_renamed, record_renamed]
      cases e.choose r.board none with
      | error fault => rfl
      | ok c =>
        simp only
        cases record { r with engine := some c.engine } e.side c.square.position with
        | error i => rfl
        | ok x =>
          simp only [Except.map, ih]
          rfl

theorem playEngine_renamed (f : String → String) (r : Room) :
    (r.renamed f).playEngine = r.playEngine.renamed f := engineTurns_renamed f _ r

/-! ## Requests -/

theorem join_renamed (f : String → String) (r : Room) (player : String) :
    (r.renamed f).join (f player) = (r.join player).renamed f := by
  rw [join, join, openSeats_renamed]
  match r.openSeats with
  | [] => rfl
  | [side] =>
    have hbegun : { (r.seat side player).renamed f with
          phase := Phase.settle ((r.seat side player).renamed f).board .black } =
        ({ r.seat side player with phase := .settle (r.seat side player).board .black } :
          Room).renamed f := rfl
    simp only [start, seat_renamed, hbegun, playEngine_renamed]
    rfl
  | side :: other :: rest =>
    simp only [seat_renamed]
    rfl

theorem seatOf_renamed (hf : Function.Injective f) (r : Room) (player : String) :
    (r.renamed f).seatOf (f player) = r.seatOf player := by
  have hname : ∀ name : Option String, name.map f = some (f player) ↔ name = some player :=
    fun name => (Option.map_injective hf).eq_iff' rfl
  simp only [seatOf, renamed, hname]

theorem mover_renamed (hf : Function.Injective f) (r : Room) (player : String) :
    (r.renamed f).mover (f player) = r.mover player := by
  rw [mover, mover, seatOf_renamed hf]
  rfl

theorem move_renamed (hf : Function.Injective f) (r : Room) (player : String) (p : Position) :
    (r.renamed f).move (f player) p = (r.move player p).renamed f := by
  rw [move, move, mover_renamed hf]
  cases r.mover player with
  | error e => rfl
  | ok side =>
    simp only
    rw [record_renamed]
    cases r.record side p with
    | error i => rfl
    | ok x =>
      simp only [Except.map, playEngine_renamed]
      rfl

end Room
end Reversi
