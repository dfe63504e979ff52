import Reversi.Proofs.Room.Referee

/-!
# Reversi.Proofs.Room.Replies

What a request to a room brings about. The engine always finishes: whenever it is due it can move,
and each of its placements fills a square.

* `Room.Ready`: whoever is to move can move.
* `Room.PlaysOn`: the engine's turns, told without a bound on their number; `Room.PlaysOn.reply` and
  `Room.PlaysOn.rest` are the first of them when the engine is due, and when it is not.
* `Room.engineTurns_playsOn`: they end without a fault, and the engine is not due after them.
* `Room.SameSeats`: nobody has taken or left a seat; `Room.PlaysOn.sameSeats`.
* `Room.join_cases`, `Room.move_cases`: a request is refused, and nothing has changed, or it is
  accepted, and then the engine is not due.
* `Room.move_sameSeats`, `Room.seated_join`: who sits where after a request.
* `Room.AtRest`: what holds between any two requests, whatever they are.
-/

namespace Reversi

theorem Board.Due.can_move {b : Board} {due side : Side} {passed : Option Side}
    (h : b.Due due (some side) passed) : b.hasLegalMove side = true := by
  cases h with
  | plays hplay => exact Board.hasLegalMove_iff_playable.2 hplay
  | passes _ hplay => exact Board.hasLegalMove_iff_playable.2 hplay

theorem Referee.due {start b : Board} {log : List MoveRecord} {turn passed : Option Side}
    (h : Referee start log b turn passed) : ∃ due, b.Due due turn passed := by
  cases h with
  | opening hdue => exact ⟨_, hdue⟩
  | placement _ _ _ hdue => exact ⟨_, hdue⟩

namespace Room

/-- Whoever is to move can move. -/
def Ready (r : Room) : Prop := ∀ side, r.phase.turn? = some side → r.board.hasLegalMove side = true

variable {start : Board} {r next last : Room} {side : Side} {s : Square}

theorem ready_of_settle {due : Side} (h : r.phase = .settle r.board due) : r.Ready := by
  intro side hside
  have hdue := Phase.settle_due r.board due
  rw [← h, hside] at hdue
  exact hdue.can_move

theorem Refereed.ready (h : Refereed start r) : r.Ready := by
  intro side hside
  obtain ⟨due, hdue⟩ := (h.replay (Phase.ne_waiting hside)).due
  rw [hside] at hdue
  exact hdue.can_move

/-! ## The engine finishes -/

theorem record_of_legal (hs : s ∈ r.board.legalMoves side) :
    ∃ events, r.record side s.position = .ok (r.played side s, events) := by
  rw [record, Board.move_position hs]
  exact ⟨_, rfl⟩

theorem engineTurns_of_idle (n : Nat) (h : r.engineDue = none) :
    r.engineTurns n = ⟨r, [], .ok ()⟩ := by
  cases n <;> simp only [engineTurns, h]

theorem engineTurns_succ {n : Nat} {e : Engine} {c : Choice} (hdue : r.engineDue = some e)
    (hc : e.choose r.board none = .ok c)
    (hnext : Room.played { r with engine := some c.engine } e.side c.square = next) :
    (r.engineTurns (n + 1)).state = (next.engineTurns n).state ∧
      (r.engineTurns (n + 1)).answer = (next.engineTurns n).answer := by
  obtain ⟨events, hrecord⟩ :=
    record_of_legal (r := { r with engine := some c.engine }) (Engine.choose_legal hc)
  rw [engineTurns]
  simp only [hdue, hc, hrecord, hnext, and_self]

/-- `PlaysOn r replies last`: the engine places a disc as long as it is due. From `r` it places
those of `replies`, each where it chooses to, and with `last` it is not due any more. -/
inductive PlaysOn : Room → List MoveRecord → Room → Prop where
  | rests {r : Room} : r.engineDue = none → PlaysOn r [] r
  | places {r last : Room} {e : Engine} {c : Choice} {replies : List MoveRecord} :
      r.engineDue = some e → e.choose r.board none = .ok c →
      PlaysOn (Room.played { r with engine := some c.engine } e.side c.square) replies last →
      PlaysOn r (recordOf r.board e.side c.square :: replies) last

theorem PlaysOn.idle {replies : List MoveRecord} (h : PlaysOn r replies last) :
    last.engineDue = none := by
  induction h with
  | rests hidle => exact hidle
  | places _ _ _ ih => exact ih

theorem PlaysOn.log_eq {replies : List MoveRecord} (h : PlaysOn r replies last) :
    last.log = r.log ++ replies := by
  induction h with
  | rests => simp
  | places _ _ _ ih => rw [ih, played_log, List.append_assoc, List.singleton_append]

theorem PlaysOn.reply {e : Engine} {replies : List MoveRecord} (h : PlaysOn r replies last)
    (he : r.engine = some e) (hturn : r.phase.turn? = some e.side) :
    ∃ c rest, e.choose r.board none = .ok c ∧ replies = recordOf r.board e.side c.square :: rest ∧
      PlaysOn (Room.played { r with engine := some c.engine } e.side c.square) rest last := by
  have hdue : r.engineDue = some e := by simp [engineDue, he, hturn]
  cases h with
  | rests hidle =>
    rw [hidle] at hdue
    cases hdue
  | places hdue' hc hrest =>
    cases hdue.symm.trans hdue'
    exact ⟨_, _, hc, rfl, hrest⟩

theorem PlaysOn.rest {e : Engine} {replies : List MoveRecord} (h : PlaysOn r replies last)
    (he : r.engine = some e) (hturn : r.phase.turn? ≠ some e.side) : last = r := by
  have hidle : r.engineDue = none := by simp [engineDue, he, hturn]
  cases h with
  | rests => rfl
  | places hdue =>
    rw [hidle] at hdue
    cases hdue

theorem engineTurns_playsOn {n : Nat} (h : r.Ready) (hn : r.board.empties ≤ n) :
    (r.engineTurns n).answer = .ok () ∧ ∃ replies, PlaysOn r replies (r.engineTurns n).state := by
  induction n generalizing r with
  | zero =>
    cases hdue : r.engineDue with
    | none =>
      rw [engineTurns_of_idle _ hdue]
      exact ⟨rfl, [], .rests hdue⟩
    | some e =>
      have hpos := Board.empties_pos (h e.side (turn?_of_engineDue hdue).2)
      omega
  | succ n ih =>
    cases hdue : r.engineDue with
    | none =>
      rw [engineTurns_of_idle _ hdue]
      exact ⟨rfl, [], .rests hdue⟩
    | some e =>
      obtain ⟨c, hc⟩ := Engine.choose_ok (h e.side (turn?_of_engineDue hdue).2)
      generalize hnext : Room.played { r with engine := some c.engine } e.side c.square = next
      obtain ⟨hstate, hanswer⟩ := engineTurns_succ (n := n) hdue hc hnext
      have hfill := Board.empties_place_of_legal (Engine.choose_legal hc)
      have hboard : next.board = r.board.place e.side c.square := by rw [← hnext]; rfl
      have hready : next.Ready := by
        rw [← hnext]
        exact ready_of_settle rfl
      obtain ⟨hok, replies, hplays⟩ := ih hready (by rw [hboard]; omega)
      rw [hstate, hanswer]
      exact ⟨hok, _, .places hdue hc (by rwa [hnext])⟩

theorem playEngine_playsOn (h : r.Ready) :
    r.playEngine.answer = .ok () ∧ ∃ replies, PlaysOn r replies r.playEngine.state :=
  engineTurns_playsOn h (Nat.le_refl _)

/-! ## Seats -/

/-- The same room with the same people in it. The engine may have learnt something. -/
structure SameSeats (r next : Room) : Prop where
  id : next.id = r.id
  black : next.black = r.black
  white : next.white = r.white
  engine : ∃ table, next.engine = r.engine.map fun e => { e with table := table }

theorem SameSeats.of_engine_eq (hid : next.id = r.id) (hblack : next.black = r.black)
    (hwhite : next.white = r.white) (hengine : next.engine = r.engine) : SameSeats r next := by
  refine ⟨hid, hblack, hwhite, (r.engine.map Engine.table).getD ∅, ?_⟩
  rw [hengine]
  cases r.engine <;> rfl

theorem SameSeats.refl (r : Room) : SameSeats r r := .of_engine_eq rfl rfl rfl rfl

theorem SameSeats.trans (h : SameSeats r next) (h' : SameSeats next last) : SameSeats r last := by
  obtain ⟨table, hengine⟩ := h.engine
  obtain ⟨table', hengine'⟩ := h'.engine
  refine ⟨h'.id.trans h.id, h'.black.trans h.black, h'.white.trans h.white, table', ?_⟩
  rw [hengine', hengine, Option.map_map]
  rfl

theorem SameSeats.player_eq (h : SameSeats r next) (side : Side) :
    next.player side = r.player side := by
  cases side with
  | black => exact h.black
  | white => exact h.white

theorem PlaysOn.sameSeats {replies : List MoveRecord} (h : PlaysOn r replies last) :
    SameSeats r last := by
  induction h with
  | @rests r _ => exact .refl r
  | @places r last e c replies hdue hc _ ih =>
    obtain ⟨table, hengine⟩ := Engine.choose_engine hc
    have hfirst :
        SameSeats r (Room.played { r with engine := some c.engine } e.side c.square) := by
      refine ⟨rfl, rfl, rfl, table, ?_⟩
      rw [(turn?_of_engineDue hdue).1, Option.map_some, ← hengine]
      rfl
    exact hfirst.trans ih

/-! ## Requests -/

/-- The last seat is taken: it is Black's turn, if Black can move. -/
def begun (r : Room) (side : Side) (player : String) : Room :=
  { r.seat side player with phase := .settle r.board .black }

theorem join_playsOn (player : String) (h : r.openSeats = [side]) :
    (r.join player).answer = .ok side ∧
      ∃ replies, PlaysOn (r.begun side player) replies (r.join player).state := by
  have hready : (r.begun side player).Ready := ready_of_settle (by rw [begun, seat_board])
  have hstate : (r.join player).state = (r.begun side player).playEngine.state := by
    simp only [join, h, Room.start, seat_board, begun]
  have hanswer : (r.join player).answer =
      (r.begun side player).playEngine.answer.map fun _ => side := by
    simp only [join, h, Room.start, seat_board, begun]
  obtain ⟨hok, hplays⟩ := playEngine_playsOn hready
  rw [hstate, hanswer, hok]
  exact ⟨rfl, hplays⟩

theorem join_cases (h : Refereed start r) (player : String) :
    (r.openSeats = [] ∧ r.join player = ⟨r, [], .error (.rejected (.roomFull r.id))⟩) ∨
      ∃ side rest, r.openSeats = side :: rest ∧ (r.join player).answer = .ok side ∧
        (r.join player).state.engineDue = none ∧
        SameSeats (r.seat side player) (r.join player).state := by
  match hseats : r.openSeats with
  | [] =>
    refine .inl ⟨rfl, ?_⟩
    simp only [join, hseats]
  | [side] =>
    obtain ⟨hanswer, replies, hplays⟩ := join_playsOn player hseats
    have hfirst : SameSeats (r.seat side player) (r.begun side player) :=
      .of_engine_eq rfl rfl rfl rfl
    exact .inr ⟨side, [], rfl, hanswer, hplays.idle, hfirst.trans hplays.sameSeats⟩
  | side :: other :: rest =>
    have hwait : r.phase = .waiting := h.seats (by simp [hseats])
    have hjoin : r.join player = ⟨r.seat side player, [.seated r.id side], .ok side⟩ := by
      simp only [join, hseats]
    rw [hjoin]
    refine .inr ⟨side, other :: rest, rfl, rfl, ?_, .refl _⟩
    simp [engineDue, hwait, Phase.turn?]

theorem move_playsOn {player : String} (hmover : r.mover player = .ok side)
    (hs : s ∈ r.board.legalMoves side) :
    (r.move player s.position).answer = .ok () ∧
      ∃ replies, PlaysOn (r.played side s) replies (r.move player s.position).state := by
  obtain ⟨events, hrecord⟩ := record_of_legal hs
  have hplays := playEngine_playsOn (r := r.played side s) (ready_of_settle rfl)
  simp only [move, hmover, hrecord]
  exact hplays

theorem move_cases (r : Room) (player : String) (p : Position) :
    (∃ e, r.mover player = .error e ∧ r.move player p = ⟨r, [], .error (.rejected e)⟩) ∨
      (∃ side, r.mover player = .ok side ∧ (∀ s ∈ r.board.legalMoves side, s.position ≠ p) ∧
        r.move player p = ⟨r, [], .error (.rejected (.illegalMove ⟨side, p⟩))⟩) ∨
      ∃ side s, r.mover player = .ok side ∧ s ∈ r.board.legalMoves side ∧ s.position = p ∧
        (r.move player p).answer = .ok () ∧ (r.move player p).state.engineDue = none ∧
        SameSeats r (r.move player p).state := by
  cases hmover : r.mover player with
  | error e =>
    refine .inl ⟨e, rfl, ?_⟩
    simp only [move, hmover]
  | ok side =>
    refine .inr ?_
    by_cases hlegal : ∃ s ∈ r.board.legalMoves side, s.position = p
    · obtain ⟨s, hs, rfl⟩ := hlegal
      obtain ⟨hanswer, replies, hplays⟩ := move_playsOn hmover hs
      have hfirst : SameSeats r (r.played side s) := .of_engine_eq rfl rfl rfl rfl
      exact .inr ⟨side, s, rfl, hs, rfl, hanswer, hplays.idle, hfirst.trans hplays.sameSeats⟩
    · have hunlisted : ∀ s ∈ r.board.legalMoves side, s.position ≠ p :=
        fun s hs hp => hlegal ⟨s, hs, hp⟩
      refine .inl ⟨side, rfl, hunlisted, ?_⟩
      simp only [move, hmover, record, Board.move_of_not_legal hunlisted]

theorem move_sameSeats (r : Room) (player : String) (p : Position) :
    SameSeats r (r.move player p).state := by
  rcases move_cases r player p with
    ⟨_, _, hmove⟩ | ⟨_, _, _, hmove⟩ | ⟨_, _, _, _, _, _, _, hsame⟩
  · rw [hmove]
    exact .refl r
  · rw [hmove]
    exact .refl r
  · exact hsame

theorem seated_join (h : Refereed start r) {player other : String}
    (hseat : (r.join player).state.player side = some other) :
    r.player side = some other ∨ (other = player ∧ (r.join player).answer = .ok side) := by
  rcases join_cases h player with ⟨-, hrefused⟩ | ⟨side', _, -, hanswer, -, hsame⟩
  · rw [hrefused] at hseat
    exact .inl hseat
  · rw [hsame.player_eq, player_seat] at hseat
    split at hseat
    · rename_i hside
      rw [hside]
      exact .inr ⟨(Option.some.inj hseat).symm, hanswer⟩
    · exact .inl hseat

/-! ## Between requests -/

/-- The room agrees with the referee, and the engine has played as long as it was due. -/
structure AtRest (start : Board) (r : Room) : Prop extends Refereed start r where
  idle : r.engineDue = none

theorem AtRest.empty (id : Int) (mode : Mode) (start : Board) (depth : Int)
    (setup : Engine.Setup) : AtRest start (empty id mode start depth setup) := by
  refine ⟨.empty id mode start depth setup, ?_⟩
  cases mode <;> rfl

theorem AtRest.serve (h : AtRest start r) (q : Request) : AtRest start (r.serve q) := by
  refine ⟨after_invariant h.toRefereed Refereed.step [q], ?_⟩
  cases q with
  | join player =>
    rw [Room.serve]
    rcases join_cases h.toRefereed player with ⟨-, hjoin⟩ | ⟨_, _, _, _, hidle, _⟩
    · rw [hjoin]
      exact h.idle
    · exact hidle
  | move player p =>
    rw [Room.serve]
    rcases move_cases r player p with
      ⟨_, _, hmove⟩ | ⟨_, _, _, hmove⟩ | ⟨_, _, _, _, _, _, hidle, _⟩
    · rw [hmove]
      exact h.idle
    · rw [hmove]
      exact h.idle
    · exact hidle
  | look => exact h.idle

theorem AtRest.after (h : AtRest start r) (requests : List Request) :
    AtRest start (r.after requests) := by
  induction requests generalizing r with
  | nil => exact h
  | cons q requests ih => exact ih (h.serve q)

theorem AtRest.after_empty (id : Int) (mode : Mode) (start : Board) (depth : Int)
    (setup : Engine.Setup) (requests : List Request) :
    AtRest start ((Room.empty id mode start depth setup).after requests) :=
  (AtRest.empty id mode start depth setup).after requests

end Room
end Reversi
