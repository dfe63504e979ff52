import Mathlib.Logic.Relation
import Reversi.Proofs.Legality
import Reversi.Room.Basic

/-!
# Reversi.Proofs.Room.Run

Runs of a room, and the steps of which every request is made.

* `Room.Request`, `Room.serve`, `Room.after`: requests in any order, accepted or not.
* `Room.Step`: a player takes a seat, the last seat starts the game, a player places a disc, the
  engine places one.
* `Room.after_steps`: every run is made of such steps; `Room.after_invariant` is the induction that
  follows from it.
-/

namespace Reversi

namespace Room

inductive Request where
  | join (player : String)
  | move (player : String) (target : Position)
  | look

/-- The room after a request, whatever the answer. -/
def serve (r : Room) : Request → Room
  | .join player => (r.join player).state
  | .move player target => (r.move player target).state
  | .look => r

def after (r : Room) (requests : List Request) : Room := requests.foldl serve r

theorem after_append (r : Room) (earlier later : List Request) :
    r.after (earlier ++ later) = (r.after earlier).after later := List.foldl_append

theorem after_concat (r : Room) (requests : List Request) (q : Request) :
    r.after (requests ++ [q]) = (r.after requests).serve q := r.after_append requests [q]

/-- What a placement on a square records. -/
def recordOf (b : Board) (side : Side) (s : Square) : MoveRecord :=
  ⟨side, s, ((b.place side s).count side.disc : Int) - b.count side.disc - 1⟩

def played (r : Room) (side : Side) (s : Square) : Room :=
  { r with
    board := r.board.place side s
    log := r.log ++ [recordOf r.board side s]
    phase := .settle (r.board.place side s) side.opponent
    moveCount := (r.log ++ [recordOf r.board side s]).length
    lastMove := some (recordOf r.board side s) }

@[simp] theorem played_board (r : Room) (side : Side) (s : Square) :
    (r.played side s).board = r.board.place side s := rfl

@[simp] theorem played_log (r : Room) (side : Side) (s : Square) :
    (r.played side s).log = r.log ++ [recordOf r.board side s] := rfl

@[simp] theorem seat_id (r : Room) (side : Side) (player : String) :
    (r.seat side player).id = r.id := by
  cases side <;> rfl

@[simp] theorem seat_board (r : Room) (side : Side) (player : String) :
    (r.seat side player).board = r.board := by
  cases side <;> rfl

@[simp] theorem seat_log (r : Room) (side : Side) (player : String) :
    (r.seat side player).log = r.log := by
  cases side <;> rfl

@[simp] theorem seat_phase (r : Room) (side : Side) (player : String) :
    (r.seat side player).phase = r.phase := by
  cases side <;> rfl

@[simp] theorem seat_engine (r : Room) (side : Side) (player : String) :
    (r.seat side player).engine = r.engine := by
  cases side <;> rfl

theorem player_seat (r : Room) (side t : Side) (player : String) :
    (r.seat side player).player t = if t = side then some player else r.player t := by
  cases side <;> cases t <;> rfl

inductive Step (r : Room) : Room → Prop where
  | sit {side other : Side} {rest : List Side} (player : String) :
      r.openSeats = side :: other :: rest → Step r (r.seat side player)
  | start {side : Side} (player : String) : r.openSeats = [side] →
      Step r { r.seat side player with phase := .settle r.board .black }
  | human {player : String} {side : Side} {s : Square} : r.mover player = .ok side →
      s ∈ r.board.legalMoves side → Step r (r.played side s)
  | engine {e : Engine} {c : Choice} : r.engineDue = some e → e.choose r.board none = .ok c →
      c.square ∈ r.board.legalMoves e.side →
      Step r (played { r with engine := some c.engine } e.side c.square)

def Steps : Room → Room → Prop := Relation.ReflTransGen Step

/-! ## Requests are made of steps -/

theorem record_eq_ok {r next : Room} {side : Side} {p : Position} {events : List Event}
    (h : r.record side p = .ok (next, events)) :
    ∃ s ∈ r.board.legalMoves side, p = s.position ∧ next = r.played side s := by
  rw [record] at h
  split at h
  · cases h
  · rename_i hmove
    obtain ⟨s, hs, hp, hresult⟩ := Board.move_eq_ok hmove
    cases hresult
    refine ⟨_, hs, hp.symm, ?_⟩
    simp only [Except.ok.injEq, Prod.mk.injEq] at h
    exact h.1.symm

theorem engineTurns_steps (n : Nat) (r : Room) : Steps r (r.engineTurns n).state := by
  induction n generalizing r with
  | zero =>
    rw [engineTurns]
    split <;> exact .refl
  | succ n ih =>
    rw [engineTurns]
    split
    · exact .refl
    · rename_i e he
      simp only
      split
      · exact .refl
      · rename_i c hc
        split
        · exact .refl
        · rename_i next events hrecord
          obtain ⟨s, hs, hsquare, rfl⟩ := record_eq_ok hrecord
          obtain rfl := Square.position_injective hsquare
          exact .head (.engine he hc hs) (ih _)

theorem join_last {r : Room} {side : Side} (player : String) (h : r.openSeats = [side]) :
    (r.join player).state = (engineTurns r.board.empties
      { r.seat side player with phase := .settle r.board .black }).state := by
  simp only [join, h, Room.start, playEngine, seat_board]

theorem join_steps (r : Room) (player : String) : Steps r (r.join player).state := by
  match hseats : r.openSeats with
  | [] =>
    simp only [join, hseats]
    exact .refl
  | [side] =>
    rw [join_last player hseats]
    exact .head (.start player hseats) (engineTurns_steps _ _)
  | side :: other :: rest =>
    simp only [join, hseats]
    exact .single (.sit player hseats)

theorem move_steps (r : Room) (player : String) (p : Position) :
    Steps r (r.move player p).state := by
  simp only [move]
  split
  · exact .refl
  · rename_i side hside
    split
    · exact .refl
    · rename_i next events hrecord
      obtain ⟨s, hs, -, rfl⟩ := record_eq_ok hrecord
      exact .head (.human hside hs) (engineTurns_steps _ _)

theorem serve_steps (r : Room) (q : Request) : Steps r (r.serve q) := by
  cases q with
  | join player => exact r.join_steps player
  | move player target => exact r.move_steps player target
  | look => exact .refl

theorem after_steps (r : Room) (requests : List Request) : Steps r (r.after requests) := by
  induction requests generalizing r with
  | nil => exact .refl
  | cons q requests ih => exact (r.serve_steps q).trans (ih (r.serve q))

/-- What holds at first and is kept by every step holds after every run. -/
theorem after_invariant {J : Room → Prop} {r : Room} (hr : J r)
    (hstep : ∀ {r next}, J r → Step r next → J next) (requests : List Request) :
    J (r.after requests) := by
  have hsteps := r.after_steps requests
  generalize r.after requests = last at hsteps
  induction hsteps with
  | refl => exact hr
  | tail _ h ih => exact hstep ih h

end Room
end Reversi
