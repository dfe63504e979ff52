import Reversi.Proofs.Flips
import Reversi.Proofs.Room.Referee

/-!
# Reversi.Proofs.Room.Discs

The accounts of a placement: what changes on the board, and by how much.

* `Board.Accounts`: the squares that change, and the numbers of discs before and after.
* `Board.accounts_place`: they are right for every legal placement.
* `Board.Precedes`: some side makes a placement; `Board.Precedes.taken`: no square becomes free.
* `Room.record_flipped`: a room records the number of discs turned.
* `Room.move_accounts`: a placement, its record, and any further placements.
-/

namespace Reversi
namespace Board

variable {b c : Board} {side : Side} {s t : Square}

structure Accounts (b : Board) (side : Side) (s : Square) (next : Board) : Prop where
  free : b.get s = .empty
  placed : next.get s = side.disc
  turned : ∀ t ∈ b.flips side s, b.get t = side.opponent.disc ∧ next.get t = side.disc
  kept : ∀ t, t ≠ s → t ∉ b.flips side s → next.get t = b.get t
  gain : next.count side.disc = b.count side.disc + 1 + (b.flips side s).length
  loss : next.count side.opponent.disc + (b.flips side s).length = b.count side.opponent.disc
  filled : next.empties + 1 = b.empties
  some_turned : 1 ≤ (b.flips side s).length

theorem count_sides (b : Board) (side : Side) :
    b.count side.disc + b.count side.opponent.disc + b.empties = 64 := by
  have htotal := b.count_total
  cases side with
  | black => exact htotal
  | white =>
    rw [Nat.add_comm (b.count Side.white.disc)]
    exact htotal

theorem accounts_place (hs : s ∈ b.legalMoves side) :
    b.Accounts side s (b.place side s) := by
  have hplay : b.Playable side s := mem_legalMoves_iff_playable.1 hs
  have hgain : (b.place side s).count side.disc =
      b.count side.disc + 1 + (b.flips side s).length := by
    rw [count_place_own hplay, ncard_turns hplay.1]
  have hfilled : (b.place side s).empties + 1 = b.empties := empties_place hplay.1
  have hbefore := b.count_sides side
  have hafter := (b.place side s).count_sides side
  refine ⟨hplay.1, b.get_place_self side s, fun t ht => ?_, fun t hts ht => ?_, hgain, ?_, hfilled,
    ?_⟩
  · obtain ⟨-, hturns⟩ := mem_flips_iff.1 ht
    exact ⟨hturns.get_eq, get_place_of_turns hplay.1 hturns⟩
  · exact get_place_of_not_turns hts fun hturns => ht (mem_flips_iff.2 ⟨hplay.1, hturns⟩)
  · omega
  · exact List.length_pos_iff.2 (isLegal_iff.1 (mem_legalMoves.1 hs))

/-! ## Placements one after the other -/

/-- Some side's placement leads from one board to the other. -/
def Precedes (b c : Board) : Prop := ∃ side p s, b.move side p = .ok (s, c)

theorem Precedes.taken (h : b.Precedes c) (ht : b.get t ≠ .empty) : c.get t ≠ .empty := by
  obtain ⟨side, p, s, hmove⟩ := h
  obtain ⟨s', hs', -, hresult⟩ := move_eq_ok hmove
  cases hresult
  exact fun hfree => ht (free_of_place hs' hfree)

theorem taken_of_precedes (h : Relation.ReflTransGen Precedes b c) (ht : b.get t ≠ .empty) :
    c.get t ≠ .empty := by
  induction h with
  | refl => exact ht
  | tail _ hstep ih => exact hstep.taken ih

end Board

namespace Room

theorem record_flipped {r : Room} {side : Side} {s : Square} (hs : s ∈ r.board.legalMoves side) :
    ∃ ending, r.record side s.position = .ok (r.played side s,
      .played r.id side s (r.board.flips side s).length :: ending) ∧
      (r.played side s).log = r.log ++ [⟨side, s, (r.board.flips side s).length⟩] := by
  have hplay := Board.mem_legalMoves_iff_playable.1 hs
  have hrecord : recordOf r.board side s = ⟨side, s, (r.board.flips side s).length⟩ := by
    rw [recordOf_eq hplay, Board.ncard_turns hplay.1]
  have hflipped := congrArg MoveRecord.flipped hrecord
  simp only [recordOf] at hflipped
  rw [played_log, hrecord, record, Board.move_position hs, played, hrecord]
  dsimp only
  rw [hflipped]
  exact ⟨_, rfl, rfl⟩

/-- A legal placement puts the mover's disc on a free square and turns the listed discs, at least
one, from the opponent's to the mover's; nothing else changes. A room records the number of discs
turned. However the two sides go on to place discs, a taken square is never free again, and no side
may place a disc there. -/
theorem move_accounts (b : Board) :
    (∀ side, ∀ s ∈ b.legalMoves side, ∃ next,
      b.move side s.position = .ok (s, next) ∧ b.Accounts side s next ∧
      ∀ r : Room, r.board = b → ∃ after ending,
        r.record side s.position =
          .ok (after, .played r.id side s (b.flips side s).length :: ending) ∧
        after.board = next ∧ after.log = r.log ++ [⟨side, s, (b.flips side s).length⟩]) ∧
    ∀ c, Relation.ReflTransGen Board.Precedes b c → ∀ t, b.get t ≠ .empty →
      c.get t ≠ .empty ∧ ∀ side, t ∉ c.legalMoves side := by
  constructor
  · intro side s hs
    refine ⟨b.place side s, Board.move_position hs, Board.accounts_place hs, ?_⟩
    rintro r rfl
    obtain ⟨ending, hrecord, hlog⟩ := record_flipped hs
    exact ⟨r.played side s, ending, hrecord, rfl, hlog⟩
  · intro c h t ht
    have htaken := Board.taken_of_precedes h ht
    refine ⟨htaken, fun side hmem => ?_⟩
    exact htaken (Board.get_of_isLegal (Board.mem_legalMoves.1 hmem))

end Room
end Reversi
