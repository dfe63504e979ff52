import Mathlib.Data.List.Nodup
import Reversi.Proofs.Bracket

/-!
# Reversi.Proofs.Flips

The list of the discs that a placement turns, in the order in which it is made.

* `Square.away_inj`: the directions from a square never meet again.
* `Board.reach`: how many discs a placement turns in one direction.
* `Board.position_flips`: the list, place by place; `Board.nodup_flips`: no place comes twice, so
  its length is the number of discs turned (`Board.ncard_turns`).
* `Board.flipsAt_bracketed`: the list consists of the bracketed runs, direction by direction and
  outward.
-/

namespace Reversi

theorem Direction.nodup_all : all.Nodup := by decide

theorem Square.away_inj {s : Square} {d d' : Direction} {i j : Nat} (hi : 1 ≤ i) (hj : 1 ≤ j)
    (h : s.away d i = s.away d' j) : d = d' ∧ i = j := by
  obtain ⟨hrow, hcol⟩ := Position.mk.inj h
  cases d <;> cases d' <;> simp only [Direction.down, Direction.right] at hrow hcol <;>
    simp only [reduceCtorEq, false_and, true_and] <;> omega

namespace Board

variable {b : Board} {side : Side} {s t : Square} {d : Direction} {k : Nat}

/-- The length of the run that the scan of one ray yields. -/
def reach (b : Board) (side : Side) (s : Square) (d : Direction) : Nat :=
  ((b.run? side (s.ray d)).getD []).length

/-- At most one run is bracketed in a direction. -/
theorem reach_of_bracketed (h : b.Bracketed side s d k) : b.reach side s d = k := by
  obtain ⟨c, hc, -⟩ := holds_iff.1 h.closed
  rw [← Square.ray_getElem?] at hc
  obtain ⟨hk, -⟩ := List.getElem?_eq_some_iff.1 hc
  rw [reach, run?_of_bracketed h, Option.getD_some, List.length_take]
  omega

theorem bracketed_reach (h : 0 < b.reach side s d) :
    b.Bracketed side s d (b.reach side s d) := by
  unfold reach at h ⊢
  cases hl : b.run? side (s.ray d) with
  | none =>
    rw [hl] at h
    exact absurd h (Nat.lt_irrefl 0)
  | some l => exact bracketed_of_run? hl

theorem position_run? (b : Board) (side : Side) (s : Square) (d : Direction) :
    ((b.run? side (s.ray d)).getD []).map Square.position =
      (List.range (b.reach side s d)).map fun i => s.away d (i + 1) := by
  unfold reach
  cases hl : b.run? side (s.ray d) with
  | none => rfl
  | some l =>
    apply List.ext_getElem
    · simp
    · intro i hi _
      rw [List.length_map] at hi
      have hplace : l[i].position = s.away d (i + 1) :=
        Position.position_of_square? (square?_of_run? hl hi)
      simpa using hplace

theorem position_flips (hs : b.get s = .empty) :
    (b.flips side s).map Square.position =
      Direction.all.flatMap fun d => (List.range (b.reach side s d)).map fun i =>
        s.away d (i + 1) := by
  rw [flips, if_pos hs, Square.rays_eq, List.map_flatMap, List.flatMap_map]
  simp only [position_run?]

theorem nodup_position_flips (b : Board) (side : Side) (s : Square) :
    ((b.flips side s).map Square.position).Nodup := by
  by_cases hs : b.get s = .empty
  · rw [position_flips hs]
    refine List.nodup_flatMap.2 ⟨fun d _ => ?_, Direction.nodup_all.imp fun hne p hp hp' => ?_⟩
    · refine List.nodup_range.map fun i j hij => ?_
      have := (Square.away_inj (by omega) (by omega) hij).2
      omega
    · obtain ⟨i, -, rfl⟩ := List.mem_map.1 hp
      obtain ⟨j, -, hij⟩ := List.mem_map.1 hp'
      exact hne (Square.away_inj (by omega) (by omega) hij).1.symm
  · rw [flips, if_neg hs]
    exact List.nodup_nil

theorem nodup_flips (b : Board) (side : Side) (s : Square) : (b.flips side s).Nodup :=
  (nodup_position_flips b side s).of_map _

theorem ncard_turns (hs : b.get s = .empty) :
    {t | b.Turns side s t}.ncard = (b.flips side s).length := by
  have hturned : {t | b.Turns side s t} = ((b.flips side s).toFinset : Set Square) := by
    ext t
    simp [mem_flips_iff, hs]
  rw [hturned, Set.ncard_coe_finset, List.toFinset_card_of_nodup (nodup_flips b side s)]

theorem flipsAt_position (b : Board) (side : Side) (s : Square) :
    b.flipsAt side s.position = b.flips side s := by
  rw [flipsAt, Square.square?_position]

theorem flipsAt_eq_nil {p : Position} (h : ¬ b.Holds p .empty) : b.flipsAt side p = [] := by
  unfold flipsAt
  cases hp : p.square? with
  | none => rfl
  | some s =>
    have hs : b.get s ≠ .empty := fun hs => h ⟨s, Position.position_of_square? hp, hs⟩
    exact if_neg hs

/-- Nothing is turned from a place that is off the board or taken. From a free square exactly the
discs of the bracketed runs are turned. None is listed twice; the runs are listed direction by
direction, each from the nearest disc outward. -/
theorem flipsAt_bracketed (b : Board) (side : Side) (p : Position) :
    (¬ b.Holds p .empty → b.flipsAt side p = []) ∧
      (∀ s : Square, s.position = p → b.get s = .empty →
        (∀ q, q ∈ (b.flipsAt side p).map Square.position ↔
          ∃ d k i, b.Bracketed side s d k ∧ 1 ≤ i ∧ i ≤ k ∧ q = s.away d i) ∧
        ∃ reach : Direction → Nat,
          (∀ d k, b.Bracketed side s d k → k = reach d) ∧
          (∀ d, 0 < reach d → b.Bracketed side s d (reach d)) ∧
          (b.flipsAt side p).map Square.position =
            Direction.all.flatMap fun d => (List.range (reach d)).map fun i => s.away d (i + 1)) ∧
      ((b.flipsAt side p).map Square.position).Nodup := by
  refine ⟨flipsAt_eq_nil, ?_, ?_⟩
  · rintro s rfl hs
    rw [flipsAt_position]
    refine ⟨fun q => ⟨?_, ?_⟩, b.reach side s, fun d k h => (reach_of_bracketed h).symm,
      fun d h => bracketed_reach h, position_flips hs⟩
    · intro hq
      obtain ⟨t, ht, rfl⟩ := List.mem_map.1 hq
      obtain ⟨-, d, k, i, hbracket, hi, hik, hplace⟩ := mem_flips_iff.1 ht
      exact ⟨d, k, i, hbracket, hi, hik, hplace⟩
    · rintro ⟨d, k, i, hbracket, hi, hik, rfl⟩
      obtain ⟨t, ht, -⟩ := hbracket.run i hi hik
      exact List.mem_map.2 ⟨t, mem_flips_iff.2 ⟨hs, d, k, i, hbracket, hi, hik, ht⟩, ht⟩
  · by_cases hp : b.Holds p .empty
    · obtain ⟨s, rfl, -⟩ := hp
      rw [flipsAt_position]
      exact nodup_position_flips b side s
    · rw [flipsAt_eq_nil hp]
      exact List.nodup_nil

end Board
end Reversi
