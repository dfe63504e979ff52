import Reversi.Proofs.Engine.Choice
import Reversi.Proofs.Room.Run

/-!
# Reversi.Proofs.Room.Shown

What a room shows of its seats and of its log is kept beside them, and written anew whenever they
change.

* `Room.Shown`: what is kept is what seats and log say.
* `Room.Shown.step`: every step brings it up to date; `Room.shown_after`: so does every run.
-/

namespace Reversi
namespace Room

variable {r next : Room} {side : Side}

structure Shown (r : Room) : Prop where
  seats : r.seats = r.takenSeats
  moveCount : r.moveCount = r.log.length
  lastMove : r.lastMove = r.log.getLast?

theorem turn?_of_engineDue {e : Engine} (h : r.engineDue = some e) :
    r.engine = some e ∧ r.phase.turn? = some e.side := by
  obtain ⟨he, hturn⟩ := Option.filter_eq_some_iff.1 h
  exact ⟨he, beq_iff_eq.1 hturn⟩

/-- A choice does not free the seat of the engine. -/
theorem isTaken_choice {e : Engine} {c : Choice} (he : r.engine = some e)
    (hc : e.choose r.board none = .ok c) :
    isTaken { r with engine := some c.engine } = r.isTaken := by
  obtain ⟨table, hengine⟩ := Engine.choose_engine hc
  funext side
  cases side <;> simp only [isTaken, Room.player, hengine, he, Option.any_some]

namespace Shown

theorem empty (id : Int) (mode : Mode) (start : Board) (depth : Int) (setup : Engine.Setup) :
    Shown (empty id mode start depth setup) := ⟨rfl, rfl, rfl⟩

theorem seat (h : Shown r) (side : Side) (player : String) : Shown (r.seat side player) := by
  cases side <;> exact ⟨rfl, h.moveCount, h.lastMove⟩

theorem played (h : Shown r) (side : Side) (s : Square) : Shown (r.played side s) :=
  ⟨h.seats, rfl, List.getLast?_concat.symm⟩

theorem step (h : Shown r) (hstep : Step r next) : Shown next := by
  cases hstep with
  | sit player => exact h.seat _ player
  | @start side player =>
    have hseat := h.seat side player
    exact ⟨hseat.seats, hseat.moveCount, hseat.lastMove⟩
  | human => exact h.played _ _
  | @engine e c hdue hc =>
    have hengine : Shown { r with engine := some c.engine } := by
      refine ⟨h.seats.trans ?_, h.moveCount, h.lastMove⟩
      simp only [takenSeats, isTaken_choice (turn?_of_engineDue hdue).1 hc]
    exact hengine.played _ _

end Shown

theorem shown_after (id : Int) (mode : Mode) (start : Board) (depth : Int) (setup : Engine.Setup)
    (requests : List Request) : Shown ((empty id mode start depth setup).after requests) :=
  after_invariant (.empty id mode start depth setup) Shown.step requests

end Room
end Reversi
