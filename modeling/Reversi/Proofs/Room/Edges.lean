import Reversi.Proofs.Room.Forward
import Reversi.Proofs.Room.Session

/-!
# Reversi.Proofs.Room.Edges

Corners are never turned, and an edge is turned only along itself.

* `Square.IsCorner`; `Square.Along`: a square lies on every edge that another one lies on.
* `Square.still_of_outer`: a line that goes on beyond an outer row or column does not cross it.
* `Board.Turns.along`, `Board.Turns.not_corner`: what a placement can turn.
* `Room.Lawful`: every placement of a log is a legal one; the logs of a referee are lawful.
* `Room.Lawful.exists_turns`: a disc that is of another colour later on has been turned by a
  placement in between.
* `Room.after_keeps_edges`: any two moments of a run.
-/

namespace Reversi

namespace Square

/-- The first or the last row or column. -/
def Outer (i : Fin 8) : Prop := i.val = 0 ∨ i.val = 7

def IsCorner (s : Square) : Prop := Outer s.row ∧ Outer s.col

/-- `s` lies on every edge that `t` lies on. -/
structure Along (s t : Square) : Prop where
  row : Outer t.row → s.row = t.row
  col : Outer t.col → s.col = t.col

/-- A coordinate changes by the same `δ` from step to step. If it has reached an outer row or column
after a step or more, and is still on the board after further ones, then it does not change at
all. -/
theorem still_of_outer {x y z : Fin 8} {δ : Int} {i k : Nat} (hδ : δ = -1 ∨ δ = 0 ∨ δ = 1)
    (hi : 1 ≤ i) (hik : i < k) (hy : (y.val : Int) = x.val + i * δ)
    (hz : (z.val : Int) = x.val + k * δ) (houter : Outer y) : δ = 0 := by
  have hx := x.isLt
  have hlast := z.isLt
  rcases hδ with rfl | rfl | rfl
  · rcases houter with h | h <;> omega
  · rfl
  · rcases houter with h | h <;> omega

end Square

namespace Direction

theorem down_cases (d : Direction) : d.down = -1 ∨ d.down = 0 ∨ d.down = 1 := by
  cases d <;> decide

theorem right_cases (d : Direction) : d.right = -1 ∨ d.right = 0 ∨ d.right = 1 := by
  cases d <;> decide

theorem down_ne_zero_or (d : Direction) : d.down ≠ 0 ∨ d.right ≠ 0 := by
  cases d <;> decide

end Direction

namespace Board

variable {b : Board} {side : Side} {s t : Square}

/-- The line from the placement over a disc that it turns does not cross an edge there: behind the
disc it goes on to the disc that closes the run. -/
theorem Turns.exists_line (h : b.Turns side s t) : ∃ (d : Direction) (i : Nat),
    t.position = s.away d i ∧ (Square.Outer t.row → d.down = 0) ∧
      (Square.Outer t.col → d.right = 0) := by
  obtain ⟨d, k, i, hbracket, hi, hik, ht⟩ := h
  obtain ⟨c, hc, -⟩ := hbracket.closed
  obtain ⟨htrow, htcol⟩ := Position.mk.inj ht
  obtain ⟨hcrow, hccol⟩ := Position.mk.inj hc
  have hbeyond : i < k + 1 := by omega
  exact ⟨d, i, ht, Square.still_of_outer d.down_cases hi hbeyond htrow hcrow,
    Square.still_of_outer d.right_cases hi hbeyond htcol hccol⟩

theorem Turns.along (h : b.Turns side s t) : s.Along t := by
  obtain ⟨d, i, ht, hdown, hright⟩ := h.exists_line
  obtain ⟨hrow, hcol⟩ := Position.mk.inj ht
  refine ⟨fun houter => Fin.ext ?_, fun houter => Fin.ext ?_⟩
  · rw [hdown houter] at hrow
    omega
  · rw [hright houter] at hcol
    omega

theorem Turns.not_corner (h : b.Turns side s t) : ¬ t.IsCorner := by
  obtain ⟨d, i, -, hdown, hright⟩ := h.exists_line
  rintro ⟨hrow, hcol⟩
  rcases d.down_ne_zero_or with hne | hne
  · exact hne (hdown hrow)
  · exact hne (hright hcol)

theorem exists_turns_of_mem_flipsAt {p : Position} (h : t ∈ b.flipsAt side p) :
    ∃ s : Square, s.position = p ∧ b.Turns side s t := by
  unfold flipsAt at h
  split at h
  · cases h
  · rename_i s hs
    exact ⟨s, Position.position_of_square? hs, (mem_flips_iff.1 h).2⟩

theorem turns_of_get_ne (hs : s ∈ b.legalMoves side) (ht : b.get t ≠ .empty)
    (hne : (b.place side s).get t ≠ b.get t) : b.Turns side s t := by
  have hts : t ≠ s := by
    rintro rfl
    exact ht (get_of_isLegal (mem_legalMoves.1 hs))
  by_contra hturn
  exact hne (get_place_of_not_turns hts hturn)

end Board

namespace Room

variable {start b : Board} {log before more : List MoveRecord} {r : Room} {t : Square}

/-- Every placement of the log is legal on the board that the earlier ones lead to. -/
def Lawful (start : Board) (log : List MoveRecord) : Prop :=
  ∀ before m after, log = before ++ m :: after →
    m.square ∈ (boardAfter start before).legalMoves m.side

theorem lawful_nil (start : Board) : Lawful start [] := by
  intro before m after hsplit
  simp at hsplit

theorem Lawful.concat {m : MoveRecord} (h : Lawful start log)
    (hm : m.square ∈ (boardAfter start log).legalMoves m.side) :
    Lawful start (log ++ [m]) := by
  intro before m' after hsplit
  rcases concat_eq_append_cons hsplit with ⟨rfl, rfl⟩ | ⟨after', hlog⟩
  · exact hm
  · exact h before m' after' hlog

theorem Lawful.of_append (h : Lawful start (log ++ more)) : Lawful start log := by
  rintro before m after rfl
  exact h before m (after ++ more) (List.append_assoc before (m :: after) more)

theorem lawful_of_referee {turn passed : Option Side} (h : Referee start log b turn passed) :
    Lawful start log := by
  induction h with
  | opening => exact lawful_nil start
  | placement h hplay _ _ ih =>
    refine ih.concat ?_
    rw [← h.board_eq]
    exact Board.mem_legalMoves_iff_playable.2 hplay

theorem Refereed.lawful (h : Refereed start r) :
    Lawful start r.log ∧ r.board = boardAfter start r.log := by
  by_cases hw : r.phase = .waiting
  · obtain ⟨hlog, hboard⟩ := h.waiting hw
    rw [hlog]
    exact ⟨lawful_nil start, hboard⟩
  · have hreplay := h.replay hw
    exact ⟨lawful_of_referee hreplay, hreplay.board_eq⟩

/-- A disc that is of another colour later on has been turned by a placement in between. By
induction on these placements: until one of them changes the disc, its square stays taken. -/
theorem Lawful.exists_turns (h : Lawful start (before ++ more))
    (ht : (boardAfter start before).get t ≠ .empty)
    (hne : (boardAfter start (before ++ more)).get t ≠ (boardAfter start before).get t) :
    ∃ made m rest, more = made ++ m :: rest ∧
      (boardAfter start (before ++ made)).Turns m.side m.square t := by
  induction more generalizing before with
  | nil => simp at hne
  | cons m more ih =>
    by_cases hsame : (boardAfter start (before ++ [m])).get t = (boardAfter start before).get t
    · rw [List.append_cons] at h hne
      rw [← hsame] at ht hne
      obtain ⟨made, m', rest, rfl, hturns⟩ := ih h ht hne
      exact ⟨m :: made, m', rest, rfl, by rwa [List.append_cons]⟩
    · have hlegal := h before m more rfl
      rw [boardAfter_concat] at hsame
      refine ⟨[], m, more, rfl, ?_⟩
      rw [List.append_nil]
      exact Board.turns_of_get_ne hlegal ht hsame

theorem Lawful.get_corner (h : Lawful start (before ++ more)) (hcorner : t.IsCorner)
    (ht : (boardAfter start before).get t ≠ .empty) :
    (boardAfter start (before ++ more)).get t = (boardAfter start before).get t := by
  by_contra hne
  obtain ⟨made, m, rest, -, hturns⟩ := h.exists_turns ht hne
  exact hturns.not_corner hcorner

/-- On no board does a placement turn a corner, and what it turns on an edge lies on the same edge
as the placement. So in every run, from any start: the board of a snapshot is where the log leads;
once a corner is taken, its disc is the same on every later board; and a disc on an edge changes
only by a placement on the same edge, from one placement to the next and from one snapshot to any
later one. -/
theorem after_keeps_edges (id : Int) (mode : Mode) (start : Board) (depth : Int)
    (setup : Engine.Setup) (earlier later : List Request) :
    let r := (empty id mode start depth setup).after earlier
    let next := (empty id mode start depth setup).after (earlier ++ later)
    (∀ (b : Board) side p, ∀ t ∈ b.flipsAt side p,
        ¬ t.IsCorner ∧ ∃ s : Square, s.position = p ∧ s.Along t) ∧
      (∃ more, next.log = r.log ++ more ∧ r.snapshot.board = boardAfter start r.log ∧
        next.snapshot.board = boardAfter start (r.log ++ more) ∧
        ∀ t, r.snapshot.board.get t ≠ .empty →
          (t.IsCorner → next.snapshot.board.get t = r.snapshot.board.get t) ∧
          (next.snapshot.board.get t ≠ r.snapshot.board.get t →
            ∃ m ∈ more, m.square.Along t)) ∧
      (∀ before more after, next.log = before ++ more ++ after → ∀ t, t.IsCorner →
        (boardAfter start before).get t ≠ .empty →
        (boardAfter start (before ++ more)).get t = (boardAfter start before).get t) ∧
      (∀ before m after, next.log = before ++ m :: after → ∀ t,
        (boardAfter start before).get t ≠ .empty →
        (boardAfter start (before ++ [m])).get t ≠ (boardAfter start before).get t →
        m.square.Along t) := by
  intro r next
  have hr : Refereed start r := (AtRest.after_empty id mode start depth setup earlier).toRefereed
  have hnext : Refereed start next :=
    (AtRest.after_empty id mode start depth setup (earlier ++ later)).toRefereed
  obtain ⟨hlawful, hboard⟩ := hnext.lawful
  refine ⟨fun b side p t ht => ?_, ?_, ?_, ?_⟩
  · obtain ⟨s, hs, hturns⟩ := Board.exists_turns_of_mem_flipsAt ht
    exact ⟨hturns.not_corner, s, hs, hturns.along⟩
  · have hforward : Forward r next := by
      have happend : next = r.after later := after_append _ earlier later
      rw [happend]
      exact hr.forward_after later
    obtain ⟨more, hmore⟩ := hforward.log
    rw [← hmore] at hlawful hboard
    obtain ⟨-, hearlier⟩ := hr.lawful
    refine ⟨more, hmore.symm, hearlier, hboard, fun t ht => ?_⟩
    change r.board.get t ≠ .empty at ht
    change (_ → next.board.get t = r.board.get t) ∧ (next.board.get t ≠ r.board.get t → _)
    rw [hearlier] at ht ⊢
    rw [hboard]
    refine ⟨fun hcorner => hlawful.get_corner hcorner ht, fun hne => ?_⟩
    obtain ⟨made, m, rest, rfl, hturns⟩ := hlawful.exists_turns ht hne
    exact ⟨m, by simp, hturns.along⟩
  · intro before more after hlog t hcorner ht
    rw [hlog] at hlawful
    exact hlawful.of_append.get_corner hcorner ht
  · intro before m after hlog t ht hne
    have hlegal := hlawful before m after hlog
    rw [boardAfter_concat] at hne
    exact (Board.turns_of_get_ne hlegal ht hne).along

end Room
end Reversi
