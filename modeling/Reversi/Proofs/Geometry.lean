import Mathlib.Data.Fintype.Defs
import Reversi.Square

/-!
# Reversi.Proofs.Geometry

Rays in coordinates.

* `Square.away`: the place a number of steps from a square, on the board or not.
* `Square.ray_getElem?`: a ray lists these places in order, as long as they are on the board.
-/

namespace Reversi

theorem Position.square?_eq_some_iff {p : Position} {s : Square} :
    p.square? = some s ↔ s.position = p :=
  ⟨Position.position_of_square?, fun h => by rw [← h, Square.square?_position]⟩

theorem Position.square?_eq_none_iff {p : Position} :
    p.square? = none ↔ ¬ (0 ≤ p.row ∧ p.row < 8 ∧ 0 ≤ p.col ∧ p.col < 8) := by
  unfold Position.square?
  split <;> simp_all

namespace Square

theorem nodup_all : all.Nodup :=
  (List.nodup_finRange 64).map fun i j h => by rw [← index_ofIndex i, h, index_ofIndex]

instance : Fintype Square := ⟨⟨all, nodup_all⟩, mem_all⟩

theorem position_injective {s t : Square} (h : s.position = t.position) : s = t := by
  rw [← Option.some_inj, ← square?_position s, h, square?_position]

/-- The place `i` steps from `s`. -/
def away (s : Square) (d : Direction) (i : Nat) : Position :=
  ⟨s.row.val + i * d.down, s.col.val + i * d.right⟩

theorem step?_eq (s : Square) (d : Direction) : s.step? d = (s.away d 1).square? := by
  simp [step?, away]

theorem away_of_step? {s t : Square} {d : Direction} (h : s.step? d = some t) (i : Nat) :
    t.away d i = s.away d (i + 1) := by
  have hp : t.position = s.away d 1 := Position.position_of_square? (step?_eq s d ▸ h)
  simp only [position, away, Position.mk.injEq] at hp
  simp only [away, hp.1, hp.2, Position.mk.injEq]
  cases d <;> simp only [Direction.down, Direction.right] <;> omega

theorem away_off_board {s : Square} {d : Direction} (h : (s.away d 1).square? = none) (i : Nat) :
    (s.away d (i + 1)).square? = none := by
  rw [Position.square?_eq_none_iff] at h ⊢
  have hr := s.row.isLt
  have hc := s.col.isLt
  cases d <;> simp only [away, Direction.down, Direction.right] at h ⊢ <;> omega

/-- Eight steps lead off the board from everywhere. -/
theorem away_far {s : Square} {d : Direction} {i : Nat} (hi : 8 ≤ i) :
    (s.away d i).square? = none := by
  rw [Position.square?_eq_none_iff]
  have hr := s.row.isLt
  have hc := s.col.isLt
  cases d <;> simp only [away, Direction.down, Direction.right] <;> omega

theorem walk_getElem? (d : Direction) (n : Nat) (s : Square) (i : Nat) (hi : i < n) :
    (walk d n s)[i]? = (s.away d (i + 1)).square? := by
  induction n generalizing s i with
  | zero => omega
  | succ n ih =>
    rw [walk]
    cases hs : s.step? d with
    | none =>
      rw [away_off_board (step?_eq s d ▸ hs)]
      rfl
    | some t =>
      cases i with
      | zero =>
        rw [← step?_eq, hs]
        rfl
      | succ i =>
        rw [← away_of_step? hs]
        exact ih t i (by omega)

theorem length_walk_le (d : Direction) (n : Nat) (s : Square) : (walk d n s).length ≤ n := by
  induction n generalizing s with
  | zero => exact Nat.le_refl 0
  | succ n ih =>
    rw [walk]
    cases s.step? d with
    | none => exact Nat.zero_le _
    | some t => exact Nat.succ_le_succ (ih t)

theorem ray_getElem? (s : Square) (d : Direction) (i : Nat) :
    (s.ray d)[i]? = (s.away d (i + 1)).square? := by
  by_cases hi : i < 7
  · exact walk_getElem? d 7 s i hi
  · have hlen := length_walk_le d 7 s
    rw [away_far (by omega), List.getElem?_eq_none_iff]
    exact Nat.le_trans hlen (by omega)

end Square

end Reversi
