import Reversi.Proofs.Room.Seats
import Reversi.Proofs.Web.Changes
import Reversi.Proofs.Web.StateObject

/-!
# Reversi.Proofs.Web.Coherence

The parts of a state object fit together, although they were written at different times.

* `StateObject.Coherent`: how they fit together.
* `Referee.last`, `Referee.barred`, `Referee.ended`: what the log says of the board.
* `Room.AtRest.coherent`: between requests a room shows a coherent object.
* `Service.after_coherent`: so every state object that is sent is coherent.
-/

namespace Reversi

/-- How the parts of a state object fit together. -/
structure StateObject.Coherent (o : StateObject) : Prop where
  rows : o.board.length = 8
  cells : ∀ row ∈ o.board, row.length = 8 ∧ ∀ n ∈ row, n ≤ 2
  black : o.board.flatten.count 1 = o.black
  white : o.board.flatten.count 2 = o.white
  discs : o.black + o.white = 4 + o.moveCount
  active : o.status = "active" ↔ o.turn = 1 ∨ o.turn = 2
  offers : o.legalMoves ≠ [] ↔ o.turn = 1 ∨ o.turn = 2
  waiting : o.status = "waiting" ↔ o.seats ≠ ["black", "white"]
  ordered : o.legalMoves.Pairwise fun x y => x.1 < y.1 ∨ (x.1 = y.1 ∧ x.2 < y.2)
  legal : ∀ side, o.turn = Side.code side → ∀ row col : Nat,
    (row, col) ∈ o.legalMoves ↔ o.board.Playable side ⟨row, col⟩
  ended : o.status ≠ "waiting" → o.status ≠ "active" → ∀ side p, ¬ o.board.Playable side p
  outcome : o.status ≠ "waiting" → o.status ≠ "active" → o.status =
    if o.white < o.black then "black_wins" else if o.black < o.white then "white_wins" else "draw"
  begun : o.lastMove = none ↔ o.moveCount = 0
  last : ∀ m, o.lastMove = some m → (m.player = 1 ∨ m.player = 2) ∧
    o.board.cell? ⟨m.row, m.col⟩ = some m.player ∧ 1 ≤ m.flipped
  note : ∀ text, o.note = some text → o.status = "active" ∧ ∃ side, o.turn = Side.code side ∧
    text = side.opponent.label ++ " has no legal move and passes" ∧
    ∀ p, ¬ o.board.Playable side.opponent p
  engine : o.mode = "ai" → o.status = "active" → o.turn = 1

/-! ## What the log says of the board -/

namespace Referee

variable {start b : Board} {log : List MoveRecord} {turn passed : Option Side}

theorem last {m : MoveRecord} (h : Referee start log b turn passed) (hm : log.getLast? = some m) :
    b.get m.square = m.side.disc ∧ 1 ≤ m.flipped := by
  cases h with
  | opening => cases hm
  | @placement log b _ side s _ _ _ _ hplay hbecomes _ =>
    rw [List.getLast?_concat] at hm
    cases hm
    obtain ⟨t, ht⟩ := hplay.2
    have hpos : 0 < {t | b.Turns side s t}.ncard :=
      (Set.ncard_pos (Set.toFinite _)).2 ⟨t, ht⟩
    exact ⟨hbecomes.placed, Int.ofNat_lt.2 hpos⟩

theorem barred {side : Side} (h : Referee start log b turn (some side)) :
    turn = some side.opponent ∧ ¬ ∃ s, b.Playable side s := by
  obtain ⟨due, hdue⟩ := h.due
  cases hdue with
  | passes hno _ => exact ⟨rfl, hno⟩

theorem ended (h : Referee start log b none passed) (side : Side) : ¬ ∃ s, b.Playable side s := by
  obtain ⟨due, hdue⟩ := h.due
  cases hdue with
  | ended hno hopp =>
    rcases due.eq_or_eq_opponent side with rfl | rfl
    · exact hno
    · exact hopp

end Referee

namespace Room

/-! ## Seats -/

variable {r : Room}

theorem Genuine.housed {k : Int} (h : r.Genuine k) : Housed r := by
  obtain ⟨mode, depth, setup, requests, rfl⟩ := h
  exact after_invariant (Housed.empty k mode .start depth setup) Housed.step requests

theorem takenSeats_ne_iff (r : Room) :
    r.takenSeats.map Side.name ≠ ["black", "white"] ↔ r.openSeats ≠ [] := by
  rw [takenSeats, openSeats]
  cases hb : r.isTaken .black <;> cases hw : r.isTaken .white <;> simp [hb, hw, Side.name]

/-! ## Between requests -/

variable {start : Board} {side : Side} {o : Outcome}

theorem AtRest.last_of_log (h : AtRest start r) {m : MoveRecord} (hm : r.log.getLast? = some m) :
    r.board.get m.square = m.side.disc ∧ 1 ≤ m.flipped := by
  by_cases hw : r.phase = .waiting
  · rw [(h.waiting hw).1] at hm
    cases hm
  · exact (h.replay hw).last hm

theorem AtRest.discs (h : AtRest .start r) :
    r.board.count .black + r.board.count .white = 4 + r.log.length := by
  have hstart : Board.start.empties = 60 := by decide +kernel
  have htotal := r.board.count_total
  have hfilled : r.board.empties + r.log.length = 60 := h.filled.trans hstart
  omega

theorem AtRest.ended (h : AtRest start r) (hphase : r.phase = .finished o) (side : Side)
    (p : Position) : ¬ r.board.grid.Playable side p := by
  have hreplay := h.replay (by simp [hphase])
  have hturn : r.phase.turn? = none := congrArg Phase.turn? hphase
  rw [hturn] at hreplay
  exact fun hp => hreplay.ended side (Grid.exists_playable_iff.1 ⟨p, hp⟩)

theorem AtRest.barred (h : AtRest start r) (hpassed : r.phase.passed? = some side) :
    r.phase.turn? = some side.opponent ∧ ∀ p, ¬ r.board.grid.Playable side p := by
  have hplaying : r.phase ≠ .waiting := by
    intro hw
    rw [hw] at hpassed
    cases hpassed
  have hreplay := h.replay hplaying
  rw [hpassed] at hreplay
  obtain ⟨hturn, hno⟩ := hreplay.barred
  exact ⟨hturn, fun p hp => hno (Grid.exists_playable_iff.1 ⟨p, hp⟩)⟩

theorem AtRest.black_of_engine (h : AtRest start r) (hhoused : Housed r) (hmode : r.mode = .engine)
    (hturn : r.phase.turn? = some side) : side = .black := by
  rw [mode] at hmode
  split at hmode
  · rename_i hengine
    obtain ⟨e, he⟩ := Option.isSome_iff_exists.1 hengine
    have hidle := Option.filter_eq_none_iff.1 h.idle e he
    rw [hturn, hhoused.white e he] at hidle
    cases side with
    | black => rfl
    | white => exact absurd rfl hidle
  · cases hmode

/-! ## What is sent of a room -/

theorem turn_iff_code : r.snapshot.object.turn = side.code ↔ r.phase.turn? = some side := by
  change r.phase.turn?.elim 0 Side.code = side.code ↔ _
  cases r.phase.turn? with
  | none => cases side <;> simp [Side.code]
  | some t => cases side <;> cases t <;> simp [Side.code]

theorem turn_iff_turn? :
    (r.snapshot.object.turn = 1 ∨ r.snapshot.object.turn = 2) ↔
      ∃ side, r.phase.turn? = some side := by
  constructor
  · rintro (h | h)
    · exact ⟨.black, turn_iff_code.1 h⟩
    · exact ⟨.white, turn_iff_code.1 h⟩
  · rintro ⟨_ | _, h⟩
    · exact .inl (turn_iff_code.2 h)
    · exact .inr (turn_iff_code.2 h)

theorem active_iff : r.snapshot.object.status = "active" ↔ ∃ side, r.phase.turn? = some side := by
  change r.phase.status.word = "active" ↔ _
  rcases r.phase with _ | ⟨turn, _⟩ | ((_ | _) | _) <;>
    simp [Phase.status, Phase.turn?, Status.word, Side.name]

theorem waiting_iff : r.snapshot.object.status = "waiting" ↔ r.phase = .waiting := by
  change r.phase.status.word = "waiting" ↔ _
  rcases r.phase with _ | ⟨turn, _⟩ | ((_ | _) | _) <;>
    simp [Phase.status, Status.word, Side.name]

theorem finished_of_status (hw : r.snapshot.object.status ≠ "waiting")
    (ha : r.snapshot.object.status ≠ "active") : ∃ o, r.phase = .finished o := by
  rw [Ne, waiting_iff] at hw
  rw [Ne, active_iff] at ha
  cases hphase : r.phase with
  | waiting => exact absurd hphase hw
  | playing turn passed => exact absurd ⟨turn, congrArg Phase.turn? hphase⟩ ha
  | finished o => exact ⟨o, rfl⟩

theorem engine_iff : r.snapshot.object.mode = "ai" ↔ r.mode = .engine := by
  change r.mode.word = "ai" ↔ _
  cases r.mode <;> simp [Mode.word]

/-- The word for the end of a game compares the scores. -/
theorem word_of_fits {b : Board} (h : o.Fits b) : (Status.finished o).word =
    if b.count .white < b.count .black then "black_wins"
    else if b.count .black < b.count .white then "white_wins" else "draw" := by
  obtain rfl := Board.outcome_eq_iff.2 h
  rw [Board.outcome, Score.outcome, Board.score]
  split
  · rfl
  · split <;> rfl

theorem snapshot_legalMoves (hturn : r.phase.turn? = some side) :
    r.snapshot.legalMoves = r.board.legalMoves side := by
  change r.phase.legalMoves r.board = _
  cases hphase : r.phase with
  | waiting =>
    rw [hphase] at hturn
    cases hturn
  | finished =>
    rw [hphase] at hturn
    cases hturn
  | playing turn passed =>
    rw [hphase] at hturn
    cases hturn
    rfl

theorem snapshot_legalMoves_nil (hturn : r.phase.turn? = none) : r.snapshot.legalMoves = [] := by
  change r.phase.legalMoves r.board = _
  cases hphase : r.phase with
  | waiting => rfl
  | finished => rfl
  | playing turn passed =>
    rw [hphase] at hturn
    cases hturn

theorem mem_object_legalMoves (hturn : r.phase.turn? = some side) (row col : Nat) :
    (row, col) ∈ r.snapshot.object.legalMoves ↔
      r.snapshot.object.board.Playable side ⟨row, col⟩ := by
  change (row, col) ∈ r.snapshot.legalMoves.map (fun s => (s.row.val, s.col.val)) ↔
    r.board.grid.Playable side ⟨row, col⟩
  rw [snapshot_legalMoves hturn, List.mem_map, Grid.playable_iff]
  refine exists_congr fun s => ?_
  rw [Board.mem_legalMoves_iff_playable, and_comm]
  simp [Square.position]

theorem AtRest.coherent (h : AtRest .start r) (hhoused : Housed r) (hshown : Shown r) :
    r.snapshot.object.Coherent where
  rows := Grid.length_grid r.board
  cells _ := Grid.row_of_mem_grid
  black := Grid.count_grid r.board .black
  white := Grid.count_grid r.board .white
  discs := h.discs.trans (congrArg (4 + ·) hshown.moveCount.symm)
  active := active_iff.trans turn_iff_turn?.symm
  offers := by
    rw [turn_iff_turn?, Ne, Snapshot.object, List.map_eq_nil_iff]
    cases hturn : r.phase.turn? with
    | none => simp [snapshot_legalMoves_nil hturn]
    | some side =>
      have hmove := h.ready side hturn
      simp [snapshot_legalMoves hturn, Board.legalMoves_eq_nil_iff, hmove]
  waiting := by
    have hseats : r.snapshot.object.seats = r.takenSeats.map Side.name :=
      congrArg (List.map Side.name) hshown.seats
    rw [waiting_iff, hseats]
    exact ⟨fun hw => r.takenSeats_ne_iff.2 (hhoused.awaits hw),
      fun hseats => h.seats (r.takenSeats_ne_iff.1 hseats)⟩
  ordered := by
    refine List.Pairwise.map _ ?_ (?_ : r.snapshot.legalMoves.Pairwise
      fun s t => s.row < t.row ∨ (s.row = t.row ∧ s.col < t.col))
    · intro s t hst
      simpa only [Fin.lt_def, Fin.ext_iff] using hst
    · cases hturn : r.phase.turn? with
      | none => simp [snapshot_legalMoves_nil hturn]
      | some side =>
        rw [snapshot_legalMoves hturn]
        exact Square.all_ordered.filter _
  legal side hside := mem_object_legalMoves (turn_iff_code.1 hside)
  ended hw ha side p := by
    obtain ⟨o, hphase⟩ := finished_of_status hw ha
    exact h.ended hphase side p
  outcome hw ha := by
    obtain ⟨o, hphase⟩ := finished_of_status hw ha
    have hstatus : r.snapshot.object.status = (Status.finished o).word :=
      congrArg (fun phase => phase.status.word) hphase
    exact hstatus.trans (word_of_fits (h.outcome o hphase))
  begun := by
    change r.lastMove.map MoveRecord.object = none ↔ r.moveCount = 0
    rw [hshown.lastMove, hshown.moveCount, Option.map_eq_none_iff, List.getLast?_eq_none_iff,
      List.length_eq_zero_iff]
  last m hm := by
    obtain ⟨m, hlast, rfl⟩ := Option.map_eq_some_iff.1 hm
    obtain ⟨hcell, hflipped⟩ := h.last_of_log (hshown.lastMove.symm.trans hlast)
    refine ⟨?_, ?_, hflipped⟩
    · change m.side.code = 1 ∨ m.side.code = 2
      cases m.side
      · exact .inl rfl
      · exact .inr rfl
    · change r.board.grid.cell? m.square.position = some m.side.code
      rw [← Side.code_disc, Grid.cell?_grid_eq_some_iff]
      exact ⟨m.square, rfl, hcell⟩
  note text htext := by
    obtain ⟨side, hpassed, rfl⟩ := Option.map_eq_some_iff.1 htext
    obtain ⟨hturn, hno⟩ := h.barred hpassed
    refine ⟨active_iff.2 ⟨_, hturn⟩, side.opponent, turn_iff_code.2 hturn, ?_⟩
    rw [Side.opponent_opponent]
    exact ⟨rfl, hno⟩
  engine hmode ha := by
    obtain ⟨side, hturn⟩ := active_iff.1 ha
    obtain rfl := h.black_of_engine hhoused (engine_iff.1 hmode) hturn
    exact turn_iff_code.2 hturn

theorem Genuine.coherent {k : Int} (h : r.Genuine k) : r.snapshot.object.Coherent :=
  h.atRest.coherent h.housed h.shown

end Room

/-- At any time during a run, the state object in the answer to somebody who looks at a room, and
that in the answer to a player who has placed a disc, is coherent. Whoever looks at a room that
there is gets one. -/
theorem Service.after_coherent {ρ : Type} (F : FrontEnd ρ) (ids : Nat → String) (depth : Int)
    (setup : Engine.Setup) (before : List ρ) (q : ρ) :
    let l := F.after ids (.empty depth setup) before
    let answer := (F.handle ids l q).response
    (F.route? q = some .state → answer.status = 200 →
        ∃ o, answer = .ok (StateObject.json o) ∧ o.Coherent) ∧
      (F.route? q = some .move → answer.status = 200 →
        ∃ o, answer = .ok (.obj [("status", .str "ok"), ("state", StateObject.json o)]) ∧
          o.Coherent) ∧
      ∀ k, F.route? q = some .state → F.addressee? q = some k → l.contains k = true →
        answer.status = 200 := by
  intro l answer
  have h : l.Genuine := genuine_after (.empty depth setup) before
  refine ⟨fun hroute hok => ?_, fun hroute hok => ?_, fun k hroute hk hcontains => ?_⟩
  · obtain ⟨k, r, -, hr, hanswer⟩ := shown hroute hok
    refine ⟨r.snapshot.object, ?_, (h k r hr).coherent⟩
    rw [Snapshot.json_object]
    exact hanswer
  · obtain ⟨form, r, -, hr, -, hanswer, -⟩ := moved hroute hok
    have hnext := (h _ r hr).serve (.move form.player form.square.position)
    refine ⟨(r.move form.player form.square.position).state.snapshot.object, ?_, hnext.coherent⟩
    rw [Snapshot.json_object]
    exact hanswer
  · rw [Lobby.contains_iff] at hcontains
    obtain ⟨r, hr⟩ := hcontains
    exact congrArg Response.status (response_of_look hroute hk hr)

end Reversi
