import Mathlib.Algebra.Order.BigOperators.Group.List
import Reversi.Engine.Evaluation
import Reversi.Proofs.Flips

/-!
# Reversi.Proofs.Engine.Ordering

The order in which placements are tried: the weight of the square, and a tenth for each disc turned.

* `Board.length_flips_le`: a placement turns at most six discs in each direction.
* `grades_apart`: the weights of squares are five units apart or more, but for two of them.
* `Merit.Bounded`: what the merit of a placement can be.
* `Merit.Outranks`: by weight, and among equal weights by the number of discs turned.
* `Merit.Outweighed`: the one unit between the weights -1 and -2 is made up for by ten discs.
* `Board.merit_outranks_iff`: apart from that, placements are ordered by weight first.
* `Board.lopsided_order`: a board on which the lesser square is tried first.
-/

namespace Reversi

/-! ## What a merit can be -/

namespace Board

variable {b : Board} {side : Side} {s t : Square}

/-- A ray has at most seven squares, and the last of a run is not the last of the ray. -/
theorem reach_le (b : Board) (side : Side) (s : Square) (d : Direction) : b.reach side s d ≤ 6 := by
  unfold reach
  cases hl : b.run? side (s.ray d) with
  | none => exact Nat.zero_le 6
  | some l =>
    obtain ⟨c, rest, hray, -, -⟩ := run?_eq_some_iff.1 hl
    have hlen := Square.length_walk_le d 7 s
    rw [← Square.ray, hray, List.length_append, List.length_cons] at hlen
    rw [Option.getD_some]
    omega

theorem length_flips_le (b : Board) (side : Side) (s : Square) :
    (b.flips side s).length ≤ 48 := by
  by_cases hs : b.get s = .empty
  · have hlen := congrArg List.length (@position_flips b side s hs)
    simp only [List.length_map, List.length_flatMap, List.length_range] at hlen
    rw [hlen]
    calc (Direction.all.map (b.reach side s)).sum
        ≤ (Direction.all.map (b.reach side s)).length • 6 :=
          List.sum_le_card_nsmul _ 6 fun n hn => by
            obtain ⟨d, -, rfl⟩ := List.mem_map.1 hn
            exact b.reach_le side s d
      _ = 48 := rfl
  · rw [flips, if_neg hs]
    exact Nat.zero_le 48

end Board

def grades : List Int := [-50, -20, -2, -1, 5, 10, 100]

/-- Two weights are five units apart or more, apart from -2 and -1. -/
theorem grades_apart : ∀ v ∈ grades, ∀ w ∈ grades, v < w → v + 5 ≤ w ∨ v = -2 ∧ w = -1 := by
  decide

theorem Square.weight_mem (s : Square) : s.weight ∈ grades := by
  revert s
  decide +kernel

namespace Merit

variable {m n : Merit}

/-- The weight is that of a square, and the discs are no more than a placement can turn. -/
structure Bounded (m : Merit) : Prop where
  weight : m.weight ∈ grades
  turned : m.turned ≤ 48

/-- By weight, and among equal weights by the number of discs turned. -/
def Outranks (m n : Merit) : Prop :=
  n.weight < m.weight ∨ m.weight = n.weight ∧ n.turned < m.turned

/-- The weights are -1 and -2, and the discs count for more than the weight. -/
def Outweighed (m n : Merit) : Prop :=
  m.weight = -1 ∧ n.weight = -2 ∧ m.turned + 10 ≤ n.turned ∨
    m.weight = -2 ∧ n.weight = -1 ∧ n.turned + 10 < m.turned

/-- The greater weight decides, as forty-eight discs do not make up for five units. -/
theorem outranks_iff (hm : m.Bounded) (hn : n.Bounded) :
    (n.tenths < m.tenths ↔ m.Outranks n) ↔ ¬ m.Outweighed n := by
  have hmt := hm.turned
  have hnt := hn.turned
  unfold tenths Outranks Outweighed
  rcases Int.lt_trichotomy m.weight n.weight with hlt | heq | hgt
  · rcases grades_apart m.weight hm.weight n.weight hn.weight hlt with hapart | ⟨hmw, hnw⟩ <;> omega
  · omega
  · rcases grades_apart n.weight hn.weight m.weight hm.weight hgt with hapart | ⟨hnw, hmw⟩ <;> omega

end Merit

namespace Board

theorem merit_bounded (b : Board) (side : Side) (s : Square) : (b.merit side s).Bounded :=
  ⟨s.weight_mem, b.length_flips_le side s⟩

/-- Of two placements on any squares the one of the greater score has the greater weight, or the
same weight and turns more discs, and the other way round, unless the weights are -1 and -2 and one
of the placements turns so many more discs that they make up for the weight. -/
theorem merit_outranks_iff (b : Board) (side : Side) (s t : Square) :
    ((b.merit side t).tenths < (b.merit side s).tenths ↔
      (b.merit side s).Outranks (b.merit side t)) ↔
        ¬ (b.merit side s).Outweighed (b.merit side t) :=
  Merit.outranks_iff (b.merit_bounded side s) (b.merit_bounded side t)

/-- White may place a disc where it turns three discs of a column, or in the second column, where it
turns fifteen in five directions. -/
def lopsided : Board :=
  let e := Cell.empty
  let x := Cell.black
  let o := Cell.white
  ⟨#v[
    x, o, x, x, o, x, o, x,
    x, x, o, o, x, x, o, x,
    x, x, x, e, x, x, x, x,
    x, x, x, x, x, x, x, x,
    x, x, x, x, x, x, x, x,
    x, e, x, x, x, x, x, o,
    x, x, x, o, o, x, o, x,
    x, o, x, o, x, x, x, o]⟩

theorem lopsided_moves : lopsided.legalMoves .white = [⟨2, 3⟩, ⟨5, 1⟩] ∧
    lopsided.merit .white ⟨2, 3⟩ = ⟨-1, 3⟩ ∧ lopsided.merit .white ⟨5, 1⟩ = ⟨-2, 15⟩ := by
  decide +kernel

theorem ordered_pair {b : Board} {side : Side} {s t : Square}
    (h : ¬ (b.merit side t).toFloat ≤ (b.merit side s).toFloat) :
    b.ordered side [s, t] = [t, s] := by
  simp [ordered, List.mergeSort, h]

/-- The square of the second column is the lesser one, and yet it has the greater score and is tried
first. -/
theorem lopsided_order : lopsided.legalMoves .white = [⟨2, 3⟩, ⟨5, 1⟩] ∧
    (lopsided.merit .white ⟨2, 3⟩).Outranks (lopsided.merit .white ⟨5, 1⟩) ∧
    (lopsided.merit .white ⟨2, 3⟩).tenths < (lopsided.merit .white ⟨5, 1⟩).tenths ∧
    lopsided.ordered .white (lopsided.legalMoves .white) = [⟨5, 1⟩, ⟨2, 3⟩] := by
  obtain ⟨hmoves, hm, hn⟩ := lopsided_moves
  refine ⟨hmoves, ?_, ?_, ?_⟩
  · rw [hm, hn]
    exact .inl (by decide)
  · rw [hm, hn]
    decide
  · rw [hmoves, ordered_pair]
    rw [hm, hn]
    decide +kernel

end Board
end Reversi
