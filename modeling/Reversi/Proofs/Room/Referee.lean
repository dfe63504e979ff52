import Reversi.Proofs.Room.Shown
import Reversi.Room.Snapshot

/-!
# Reversi.Proofs.Room.Referee

A referee who knows the rules and replays the log of a room.

* `Board.Due`: who is to play when a side is due: that side, or the other one after a pass, or
  nobody.
* `Board.Becomes`: the board that a placement must lead to.
* `Referee`: what the referee finds after a log.
* `Room.after_refereed`: after every run the snapshot of a room is what the referee finds.
-/

namespace Reversi

namespace Board

/-- Who is to play, and who has just passed, when `side` is due. -/
inductive Due (b : Board) (side : Side) : Option Side → Option Side → Prop where
  | plays : (∃ s, b.Playable side s) → Due b side (some side) none
  | passes : (¬ ∃ s, b.Playable side s) → (∃ s, b.Playable side.opponent s) →
      Due b side (some side.opponent) (some side)
  | ended : (¬ ∃ s, b.Playable side s) → (¬ ∃ s, b.Playable side.opponent s) →
      Due b side none none

/-- The mover's disc is on the square and on every square that it turns; nothing else changes. -/
structure Becomes (b : Board) (side : Side) (s : Square) (c : Board) : Prop where
  placed : c.get s = side.disc
  turned : ∀ t, b.Turns side s t → c.get t = side.disc
  kept : ∀ t, t ≠ s → ¬ b.Turns side s t → c.get t = b.get t

theorem Becomes.eq_place {b c : Board} {side : Side} {s : Square} (hs : b.Playable side s)
    (h : b.Becomes side s c) : c = b.place side s := by
  refine eq_of_get fun t => ?_
  by_cases hts : t = s
  · rw [hts, h.placed, get_place_self]
  · by_cases hturn : b.Turns side s t
    · rw [h.turned t hturn, get_place_of_turns hs.1 hturn]
    · rw [h.kept t hts hturn, get_place_of_not_turns hts hturn]

end Board

/-- `Referee start log b turn passed`: after the placements of `log`, the first of them Black's if
it can move, the referee sees the board `b`, with `turn` to play after `passed` has passed. -/
inductive Referee (start : Board) : List MoveRecord → Board → Option Side → Option Side → Prop where
  | opening {turn passed : Option Side} : start.Due .black turn passed →
      Referee start [] start turn passed
  | placement {log : List MoveRecord} {b c : Board} {side : Side} {s : Square}
      {before turn passed : Option Side} : Referee start log b (some side) before →
      b.Playable side s → b.Becomes side s c → c.Due side.opponent turn passed →
      Referee start (log ++ [⟨side, s, ({t | b.Turns side s t}.ncard : Nat)⟩]) c turn passed

theorem Referee.filled {start b : Board} {log : List MoveRecord} {turn passed : Option Side}
    (h : Referee start log b turn passed) : b.empties + log.length = start.empties := by
  induction h with
  | opening => rfl
  | @placement log b c side s before turn passed _ hplay hbecomes _ ih =>
    have hfill : (b.place side s).empties + 1 = b.empties := Board.empties_place hplay.1
    rw [hbecomes.eq_place hplay, List.length_append, List.length_singleton]
    omega

/-! ## The room follows the referee -/

theorem Phase.settle_of_move {b : Board} {due : Side} (h : b.hasLegalMove due = true) :
    settle b due = .playing due false := by
  rw [settle, if_pos h]

theorem Phase.settle_of_pass {b : Board} {due : Side} (h : b.hasLegalMove due = false)
    (ho : b.hasLegalMove due.opponent = true) : settle b due = .playing due.opponent true := by
  simp only [settle, h, ho, Bool.false_eq_true, if_false, if_true]

theorem Phase.settle_of_terminal {b : Board} (h : b.isTerminal = true) (due : Side) :
    settle b due = .finished b.outcome := by
  simp [settle, Board.isTerminal_iff.1 h]

theorem Phase.settle_due (b : Board) (due : Side) :
    b.Due due (settle b due).turn? (settle b due).passed? := by
  unfold settle
  cases hd : b.hasLegalMove due with
  | true => exact .plays (Board.hasLegalMove_iff_playable.1 hd)
  | false =>
    have hno := Board.hasLegalMove_eq_false_iff.1 hd
    cases ho : b.hasLegalMove due.opponent with
    | true =>
      have hpass := Board.Due.passes hno (Board.hasLegalMove_iff_playable.1 ho)
      simpa [turn?, passed?] using hpass
    | false => exact .ended hno (Board.hasLegalMove_eq_false_iff.1 ho)

theorem Phase.settle_ne_waiting (b : Board) (due : Side) : settle b due ≠ .waiting := by
  unfold settle
  split
  · exact Phase.noConfusion
  · split <;> exact Phase.noConfusion

theorem Phase.ne_waiting {phase : Phase} {side : Side} (h : phase.turn? = some side) :
    phase ≠ .waiting := by
  rintro rfl
  cases h

theorem Phase.settle_fits {b : Board} {due : Side} {o : Outcome} (h : settle b due = .finished o) :
    o.Fits b := by
  unfold settle at h
  split at h
  · cases h
  · split at h
    · cases h
    · cases h
      exact Board.outcome_eq_iff.1 rfl

namespace Room

theorem becomes_place {b : Board} {side : Side} {s : Square} (h : b.Playable side s) :
    b.Becomes side s (b.place side s) where
  placed := b.get_place_self side s
  turned _ ht := Board.get_place_of_turns h.1 ht
  kept _ hts ht := Board.get_place_of_not_turns hts ht

/-- The number that is recorded is the number of discs turned. -/
theorem recordOf_eq {b : Board} {side : Side} {s : Square} (h : b.Playable side s) :
    recordOf b side s = ⟨side, s, ({t | b.Turns side s t}.ncard : Nat)⟩ := by
  have hcount := Board.count_place_own h
  simp only [recordOf, MoveRecord.mk.injEq, true_and]
  omega

/-- The room agrees with the referee, or waits for players. -/
structure Refereed (start : Board) (r : Room) : Prop where
  waiting : r.phase = .waiting → r.log = [] ∧ r.board = start
  seats : r.openSeats ≠ [] → r.phase = .waiting
  replay : r.phase ≠ .waiting → Referee start r.log r.board r.phase.turn? r.phase.passed?
  outcome : ∀ o, r.phase = .finished o → o.Fits r.board

theorem Refereed.empty (id : Int) (mode : Mode) (start : Board) (depth : Int)
    (setup : Engine.Setup) : Refereed start (empty id mode start depth setup) where
  waiting _ := ⟨rfl, rfl⟩
  seats _ := rfl
  replay h := absurd rfl h
  outcome _ h := by cases h

theorem turn?_of_mover {r : Room} {player : String} {side : Side}
    (h : r.mover player = .ok side) : r.phase.turn? = some side := by
  simp only [mover] at h
  split at h
  · cases h
  · cases h
  · rename_i turn passed hphase
    split at h
    · cases h
    · split at h
      · rename_i hturn
        cases h
        rw [hphase, hturn]
        rfl
      · cases h

theorem player_of_seatOf {r : Room} {player : String} {side : Side}
    (h : r.seatOf player = some side) : r.player side = some player := by
  simp only [seatOf] at h
  split at h
  · cases h
    assumption
  · split at h
    · cases h
      assumption
    · cases h

theorem player_of_mover {r : Room} {player : String} {side : Side}
    (h : r.mover player = .ok side) : r.player side = some player := by
  simp only [mover] at h
  split at h
  · cases h
  · cases h
  · split at h
    · cases h
    · rename_i hseat
      split at h
      · cases h
        exact player_of_seatOf hseat
      · cases h

theorem isTaken_seat {r : Room} {side t : Side} {player : String} :
    (r.seat side player).isTaken t = true ↔ t = side ∨ r.isTaken t = true := by
  cases side <;> cases t <;> simp [isTaken, seat, showSeats, Room.player]

theorem mem_openSeats {r : Room} {t : Side} : t ∈ r.openSeats ↔ r.isTaken t = false := by
  cases t <;> simp [openSeats]

theorem openSeats_seat_last {r : Room} {side : Side} {player : String} (h : r.openSeats = [side]) :
    (r.seat side player).openSeats = [] := by
  refine List.eq_nil_iff_forall_not_mem.2 fun t ht => ?_
  rw [mem_openSeats, Bool.eq_false_iff] at ht
  by_cases hside : t = side
  · exact ht (isTaken_seat.2 (.inl hside))
  · refine ht (isTaken_seat.2 (.inr ?_))
    rw [← Bool.not_eq_false, ← mem_openSeats, h, List.mem_singleton]
    exact hside

theorem openSeats_choice {r : Room} {e : Engine} {c : Choice} (he : r.engine = some e)
    (hc : e.choose r.board none = .ok c) :
    openSeats { r with engine := some c.engine } = r.openSeats := by
  simp only [openSeats, isTaken_choice he hc]

namespace Refereed

variable {start : Board} {r next : Room}

theorem played (h : Refereed start r) {side : Side} {s : Square} (hturn : r.phase.turn? = some side)
    (hs : s ∈ r.board.legalMoves side) : Refereed start (r.played side s) := by
  have hplaying := Phase.ne_waiting hturn
  have hplay : r.board.Playable side s := Board.mem_legalMoves_iff_playable.1 hs
  refine ⟨fun hw => absurd hw (Phase.settle_ne_waiting _ _),
    fun hopen => absurd (h.seats hopen) hplaying, fun _ => ?_, fun o ho => Phase.settle_fits ho⟩
  have hreplay := h.replay hplaying
  rw [hturn] at hreplay
  have hnext := Referee.placement hreplay hplay (becomes_place hplay)
    (Phase.settle_due (r.board.place side s) side.opponent)
  rw [← recordOf_eq hplay] at hnext
  exact hnext

theorem step (h : Refereed start r) (hstep : Step r next) : Refereed start next := by
  cases hstep with
  | sit player hopen =>
    have hwait : r.phase = .waiting := h.seats (by simp [hopen])
    refine ⟨fun _ => ?_, fun _ => ?_, fun hp => ?_, fun o ho => ?_⟩
    · rw [seat_log, seat_board]
      exact h.waiting hwait
    · rw [seat_phase, hwait]
    · rw [seat_phase] at hp
      exact absurd hwait hp
    · rw [seat_phase, hwait] at ho
      cases ho
  | @start side player hopen =>
    obtain ⟨hlog, hboard⟩ := h.waiting (h.seats (by simp [hopen]))
    refine ⟨fun hw => absurd hw (Phase.settle_ne_waiting _ _),
      fun hne => absurd (openSeats_seat_last hopen) hne, fun _ => ?_, fun o ho => ?_⟩
    · simp only [seat_log, seat_board, hlog, hboard]
      exact .opening (Phase.settle_due start .black)
    · simp only [seat_board]
      exact Phase.settle_fits ho
  | human hmover hs => exact h.played (turn?_of_mover hmover) hs
  | @engine e c hdue hc hs =>
    obtain ⟨he, hturn⟩ := turn?_of_engineDue hdue
    have hengine : Refereed start { r with engine := some c.engine } := by
      refine ⟨h.waiting, fun hopen => h.seats ?_, h.replay, h.outcome⟩
      rwa [openSeats_choice he hc] at hopen
    exact hengine.played hturn hs

theorem filled (h : Refereed start r) : r.board.empties + r.log.length = start.empties := by
  by_cases hw : r.phase = .waiting
  · obtain ⟨hlog, hboard⟩ := h.waiting hw
    rw [hlog, hboard, List.length_nil, Nat.add_zero]
  · exact (h.replay hw).filled

end Refereed

/-- After any requests in any order, the snapshot of a room is what a referee finds who replays its
log: before the game begins there is nothing to replay, and then seats, squares and numbers of
discs turned are as the rules have it at every placement, and board, turn, pass, status, number of
placements and last placement are those that the referee arrives at. -/
theorem after_refereed (id : Int) (mode : Mode) (start : Board) (depth : Int)
    (setup : Engine.Setup) (requests : List Request) :
    let r := (empty id mode start depth setup).after requests
    let v := r.snapshot
    ((v.status = .waiting ∧ r.log = [] ∧ v.board = start ∧ v.turn = none ∧ v.note = none) ∨
      (v.status ≠ .waiting ∧ ∃ passed, Referee start r.log v.board v.turn passed ∧
        v.note = passed.map (fun side => side.label ++ " has no legal move and passes") ∧
        (v.turn ≠ none → v.status = .active) ∧
        (v.turn = none → ∃ o : Outcome, v.status = .finished o ∧ o.Fits v.board))) ∧
      v.moveCount = r.log.length ∧ v.lastMove = r.log.getLast? := by
  intro r v
  have hr : Refereed start r :=
    after_invariant (Refereed.empty id mode start depth setup) Refereed.step requests
  have hshown : Shown r := shown_after id mode start depth setup requests
  refine ⟨?_, hshown.moveCount, hshown.lastMove⟩
  cases hp : r.phase with
  | waiting =>
    obtain ⟨hlog, hboard⟩ := hr.waiting hp
    refine .inl ⟨?_, hlog, hboard, ?_, ?_⟩
    · change r.phase.status = _
      rw [hp]
      rfl
    · change r.phase.turn? = _
      rw [hp]
      rfl
    · change r.phase.passed?.map _ = _
      rw [hp]
      rfl
  | playing turn passed =>
    have hplaying : r.phase ≠ .waiting := by simp [hp]
    have hstatus : v.status = .active := congrArg Phase.status hp
    have hturn : v.turn = some turn := congrArg Phase.turn? hp
    refine .inr ⟨by simp [hstatus], r.phase.passed?, hr.replay hplaying, rfl, fun _ => hstatus,
      fun hnone => ?_⟩
    rw [hturn] at hnone
    cases hnone
  | finished o =>
    have hplaying : r.phase ≠ .waiting := by simp [hp]
    have hstatus : v.status = .finished o := congrArg Phase.status hp
    have hturn : v.turn = none := congrArg Phase.turn? hp
    exact .inr ⟨by simp [hstatus], r.phase.passed?, hr.replay hplaying, rfl,
      fun hsome => absurd hturn hsome, fun _ => ⟨o, hstatus, hr.outcome o hp⟩⟩

end Room
end Reversi
