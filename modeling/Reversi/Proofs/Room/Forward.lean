import Mathlib.Data.Set.Card
import Reversi.Proofs.Room.Replies

/-!
# Reversi.Proofs.Room.Forward

The life of a room only moves forward.

* `Status.stage`: waiting, playing, finished.
* `Room.Forward`: what may have become of a room. It is kept by every step (`Refereed.forward`) and
  so by every run (`Refereed.forward_after`).
* `Board.card_filled`: squares that stay taken are counted by what is left of the free ones.
* `Room.after_moves_forward`: any two moments of a run.
-/

namespace Reversi

def Status.stage : Status → Nat
  | .waiting => 0
  | .active => 1
  | .finished _ => 2

/-- If no square has become free again, the squares filled are those that are no longer free. -/
theorem Board.card_filled {b c : Board} (h : ∀ s, b.get s ≠ .empty → c.get s ≠ .empty) :
    c.empties + {s | b.get s = .empty ∧ c.get s ≠ .empty}.ncard = b.empties := by
  have hfilled : {s | b.get s = .empty ∧ c.get s ≠ .empty} =
      ((Finset.univ.filter fun s => b.get s = .empty ∧ c.get s ≠ .empty : Finset Square) :
        Set Square) := by
    ext s
    simp
  have hfree : (Finset.univ.filter fun s => b.get s = .empty ∧ c.get s = .empty) =
      Finset.univ.filter fun s => c.get s = .empty := by
    ext s
    have hs := h s
    simp only [Finset.mem_filter, Finset.mem_univ, true_and, and_iff_right_iff_imp]
    exact fun hc => by_contra fun hb => hs hb hc
  have hsplit := Finset.card_filter_add_card_filter_not
    (s := Finset.univ.filter fun s => b.get s = .empty) (fun s => c.get s = .empty)
  rw [Finset.filter_filter, Finset.filter_filter, hfree] at hsplit
  rw [empties, empties, count_eq_card, count_eq_card, hfilled, Set.ncard_coe_finset]
  exact hsplit

namespace Room

/-- What may have become of the room `r`. The engine keeps its side and its depth. -/
structure Forward (r next : Room) : Prop where
  stage : r.phase.status.stage ≤ next.phase.status.stage
  ended : r.phase.status.isTerminal = true → next = r
  log : r.log <+: next.log
  seats : ∀ side player, r.player side = some player → next.player side = some player
  id : next.id = r.id
  engine : ∃ table, next.engine = r.engine.map fun e => { e with table := table }
  taken : ∀ s, r.board.get s ≠ .empty → next.board.get s ≠ .empty

variable {start : Board} {r next last : Room} {side : Side} {s : Square}

theorem Forward.refl (r : Room) : Forward r r where
  stage := Nat.le_refl _
  ended _ := rfl
  log := List.prefix_refl _
  seats _ _ h := h
  id := rfl
  engine := (SameSeats.refl r).engine
  taken _ h := h

theorem Forward.trans (h : Forward r next) (h' : Forward next last) : Forward r last where
  stage := Nat.le_trans h.stage h'.stage
  ended hended := by
    obtain rfl := h.ended hended
    exact h'.ended hended
  log := h.log.trans h'.log
  seats side player hp := h'.seats side player (h.seats side player hp)
  id := h'.id.trans h.id
  engine := by
    obtain ⟨table, he⟩ := h.engine
    obtain ⟨table', he'⟩ := h'.engine
    refine ⟨table', ?_⟩
    rw [he', he, Option.map_map]
    rfl
  taken s hs := h'.taken s (h.taken s hs)

theorem Forward.mode (h : Forward r next) : next.mode = r.mode := by
  obtain ⟨table, he⟩ := h.engine
  rw [Room.mode, Room.mode, he, Option.isSome_map]

/-! ## Steps and runs -/

theorem status_of_turn? {phase : Phase} (h : phase.turn? = some side) : phase.status = .active := by
  cases phase with
  | playing => rfl
  | waiting | finished => cases h

theorem stage_settle_pos (b : Board) (due : Side) : 0 < (Phase.settle b due).status.stage := by
  have hne := Phase.settle_ne_waiting b due
  cases hphase : Phase.settle b due with
  | waiting => exact absurd hphase hne
  | playing | finished => exact Nat.succ_pos _

theorem forward_played (hturn : r.phase.turn? = some side) (hs : s ∈ r.board.legalMoves side) :
    Forward r (r.played side s) where
  stage := by
    rw [status_of_turn? hturn]
    exact stage_settle_pos _ _
  ended hended := by
    rw [status_of_turn? hturn] at hended
    cases hended
  log := List.prefix_append _ _
  seats side player hp := by cases side <;> exact hp
  id := rfl
  engine := (SameSeats.refl r).engine
  taken _ ht hfree := ht (Board.free_of_place hs hfree)

theorem forward_seat (hphase : r.phase = .waiting) (hopen : side ∈ r.openSeats) (player : String) :
    Forward r (r.seat side player) where
  stage := by rw [seat_phase]
  ended hended := by
    rw [hphase] at hended
    cases hended
  log := by rw [seat_log]
  seats t other hother := by
    rw [player_seat, if_neg]
    · exact hother
    · rintro rfl
      rw [mem_openSeats, isTaken, hother] at hopen
      cases hopen
  id := seat_id r side player
  engine := by
    rw [seat_engine]
    exact (SameSeats.refl r).engine
  taken t ht := by rwa [seat_board]

theorem Refereed.forward (h : Refereed start r) (hstep : Step r next) : Forward r next := by
  cases hstep with
  | @sit side other rest player hopen =>
    exact forward_seat (h.seats (by simp [hopen])) (by simp [hopen]) player
  | @start side player hopen =>
    have hwait : r.phase = .waiting := h.seats (by simp [hopen])
    obtain ⟨-, -, hlog, hseats, hid, hengine, htaken⟩ :=
      forward_seat hwait (show side ∈ r.openSeats by simp [hopen]) player
    refine ⟨?_, fun hended => ?_, hlog, hseats, hid, hengine, htaken⟩
    · rw [hwait]
      exact Nat.zero_le _
    · rw [hwait] at hended
      cases hended
  | human hmover hs => exact forward_played (turn?_of_mover hmover) hs
  | @engine e c hdue hc hs =>
    obtain ⟨he, hturn⟩ := turn?_of_engineDue hdue
    obtain ⟨table, hengine⟩ := Engine.choose_engine hc
    have hlearnt : Forward r { r with engine := some c.engine } := by
      refine ⟨Nat.le_refl _, fun hended => ?_, List.prefix_refl _, fun _ _ hp => hp, rfl,
        ⟨table, ?_⟩, fun _ ht => ht⟩
      · rw [status_of_turn? hturn] at hended
        cases hended
      · rw [he, Option.map_some, hengine]
    exact hlearnt.trans (forward_played hturn hs)

theorem Refereed.forward_after (h : Refereed start r) (requests : List Request) :
    Forward r (r.after requests) := by
  have hrun : Refereed start (r.after requests) ∧ Forward r (r.after requests) := by
    refine after_invariant (J := fun next => Refereed start next ∧ Forward r next)
      ⟨h, .refl r⟩ (fun hnext hstep => ?_) requests
    exact ⟨hnext.1.step hstep, hnext.2.trans (hnext.1.forward hstep)⟩
  exact hrun.2

/-- Of any two moments of a run the later one has come forward. The status advances from waiting to
playing to finished; once the game is finished nothing changes any more; the log is continued; seats
stay given, and taken squares taken; number and mode of the room stay. The placements in between are
as many as the squares filled in between. So there are no more placements than squares that were
free at the start. -/
theorem after_moves_forward (id : Int) (mode : Mode) (start : Board) (depth : Int)
    (setup : Engine.Setup) (earlier later : List Request) :
    let r := (empty id mode start depth setup).after earlier
    let next := (empty id mode start depth setup).after (earlier ++ later)
    r.snapshot.status.stage ≤ next.snapshot.status.stage ∧
      (r.snapshot.status.isTerminal = true → next.snapshot = r.snapshot ∧ next.log = r.log) ∧
      r.log <+: next.log ∧
      (∀ side player, r.player side = some player → next.player side = some player) ∧
      next.snapshot.room = r.snapshot.room ∧ next.snapshot.mode = r.snapshot.mode ∧
      (∀ s, r.snapshot.board.get s ≠ .empty → next.snapshot.board.get s ≠ .empty) ∧
      next.snapshot.moveCount = r.snapshot.moveCount +
        {s | r.snapshot.board.get s = .empty ∧ next.snapshot.board.get s ≠ .empty}.ncard ∧
      next.log.length ≤ start.empties := by
  intro r next
  have hr : Refereed start r :=
    (AtRest.after_empty id mode start depth setup earlier).toRefereed
  have hnext : Refereed start next :=
    (AtRest.after_empty id mode start depth setup (earlier ++ later)).toRefereed
  have hforward : Forward r next := by
    have happend : next = r.after later := after_append _ earlier later
    rw [happend]
    exact hr.forward_after later
  have hcount : next.log.length = r.log.length +
      {s | r.board.get s = .empty ∧ next.board.get s ≠ .empty}.ncard := by
    have hfilled := Board.card_filled hforward.taken
    have := hr.filled
    have := hnext.filled
    omega
  have hended : r.phase.status.isTerminal = true →
      next.snapshot = r.snapshot ∧ next.log = r.log := by
    intro hended
    rw [hforward.ended hended]
    exact ⟨rfl, rfl⟩
  have hshown : next.snapshot.moveCount = r.snapshot.moveCount +
      {s | r.board.get s = .empty ∧ next.board.get s ≠ .empty}.ncard := by
    have hbefore : r.snapshot.moveCount = r.log.length :=
      (shown_after id mode start depth setup earlier).moveCount
    have hafter : next.snapshot.moveCount = next.log.length :=
      (shown_after id mode start depth setup (earlier ++ later)).moveCount
    rw [hbefore, hafter, hcount]
  have := hnext.filled
  exact ⟨hforward.stage, hended, hforward.log, hforward.seats, hforward.id, hforward.mode,
    hforward.taken, hshown, by omega⟩

end Room
end Reversi
