import Mathlib.Algebra.Order.BigOperators.Group.Finset
import Mathlib.Algebra.Order.Group.Abs
import Reversi.Engine.Evaluation
import Reversi.Proofs.Bracket

/-!
# Reversi.Proofs.Engine.Evaluation

The worth of a position that is not decided, and of a finished game.

* `Board.positional_eq_sum`: the weights as a sum over all squares.
* `Board.abs_evaluate_le`: weights and mobility are bounded; the bound is below `winBonus`.
* `Board.finalValue_cases`: the value of a finished game by the sign of the lead.
* `Board.winBonus_lt_finalValue_iff`, `finalValue_lt_neg_winBonus_iff`, `finalValue_eq_zero_iff`: the
  value of a finished game tells who has won it.
-/

namespace Reversi
namespace Board

variable {player : Side} {b : Board}

/-! ## Undecided positions -/

theorem positional_eq_sum (b : Board) (side : Side) : b.positional side = ∑ s, b.stake side s := by
  have hfold : ∀ (l : List Square) (x : Int),
      l.foldl (fun sum s => sum + b.stake side s) x = x + (l.map (b.stake side)).sum := by
    intro l
    induction l with
    | nil => intro x; simp
    | cons s l ih =>
      intro x
      rw [List.foldl_cons, ih, List.map_cons, List.sum_cons, Int.add_assoc]
  rw [positional, hfold, Int.zero_add]
  rfl

theorem abs_stake_le (b : Board) (side : Side) (s : Square) : |b.stake side s| ≤ |s.weight| := by
  unfold stake
  split
  · exact le_refl _
  · split
    · rw [abs_neg]
    · rw [abs_zero]
      exact abs_nonneg _

theorem sum_abs_weight : ∑ s : Square, |s.weight| = 928 := by
  decide +kernel

theorem mobility_le (b : Board) (side : Side) : b.mobility side ≤ 64 :=
  (List.length_filter_le _ _).trans_eq (by decide)

theorem abs_evaluate_le (b : Board) (side : Side) : |b.evaluate side| ≤ 1056 := by
  have hpositional : |b.positional side| ≤ 928 := by
    calc |b.positional side| = |∑ s, b.stake side s| := by rw [positional_eq_sum]
      _ ≤ ∑ s, |b.stake side s| := Finset.abs_sum_le_sum_abs _ _
      _ ≤ ∑ s : Square, |s.weight| := Finset.sum_le_sum fun s _ => abs_stake_le b side s
      _ = 928 := sum_abs_weight
  have hmine := b.mobility_le side
  have htheirs := b.mobility_le side.opponent
  rw [abs_le] at hpositional ⊢
  unfold evaluate
  omega

theorem evaluate_lt (b : Board) (side : Side) : b.evaluate side < winBonus := by
  have h := (abs_le.1 (b.abs_evaluate_le side)).2
  have hbonus : winBonus = 10000 := rfl
  omega

theorem neg_winBonus_lt_evaluate (b : Board) (side : Side) : -winBonus < b.evaluate side := by
  have h := (abs_le.1 (b.abs_evaluate_le side)).1
  have hbonus : winBonus = 10000 := rfl
  omega

/-! ## Finished games -/

theorem lead_opponent (b : Board) (side : Side) : b.lead side.opponent = -b.lead side := by
  rw [lead, lead, Side.opponent_opponent]
  omega

theorem lead_pos_iff : 0 < b.lead player ↔ b.outcome = .won player := by
  rw [outcome_eq_iff]
  simp only [lead, Outcome.Fits]
  omega

theorem lead_neg_iff : b.lead player < 0 ↔ b.outcome = .won player.opponent := by
  rw [← lead_pos_iff, lead_opponent]
  omega

theorem lead_eq_zero_iff : b.lead player = 0 ↔ b.outcome = .draw := by
  rw [outcome_eq_iff]
  cases player <;> simp only [lead, Outcome.Fits, Side.opponent] <;> omega

theorem finalValue_cases (b : Board) (side : Side) :
    0 < b.lead side ∧ b.finalValue side = winBonus + b.lead side ∨
    b.lead side < 0 ∧ b.finalValue side = -winBonus + b.lead side ∨
    b.lead side = 0 ∧ b.finalValue side = 0 := by
  unfold finalValue
  rcases lt_trichotomy (b.lead side) 0 with h | h | h
  · exact .inr (.inl ⟨h, by simp only [if_neg h.not_gt, if_pos h]⟩)
  · exact .inr (.inr ⟨h, by simp [h]⟩)
  · exact .inl ⟨h, by simp only [if_pos h]⟩

/-- What one side wins the other loses. -/
theorem finalValue_opponent (b : Board) (side : Side) :
    b.finalValue side.opponent = -b.finalValue side := by
  have hmine := b.finalValue_cases side
  have htheirs := b.finalValue_cases side.opponent
  rw [lead_opponent] at htheirs
  omega

/-- The value of a finished game is positive where the player has won it. -/
theorem finalValue_pos_iff : 0 < b.finalValue player ↔ b.outcome = .won player := by
  have hbonus : winBonus = 10000 := rfl
  have hvalue := b.finalValue_cases player
  rw [← lead_pos_iff]
  omega

theorem winBonus_lt_finalValue_iff : winBonus < b.finalValue player ↔ b.outcome = .won player := by
  have hbonus : winBonus = 10000 := rfl
  have hvalue := b.finalValue_cases player
  rw [← lead_pos_iff]
  omega

theorem finalValue_lt_neg_winBonus_iff :
    b.finalValue player < -winBonus ↔ b.outcome = .won player.opponent := by
  have hbonus : winBonus = 10000 := rfl
  have hvalue := b.finalValue_cases player
  rw [← lead_neg_iff]
  omega

theorem finalValue_eq_zero_iff : b.finalValue player = 0 ↔ b.outcome = .draw := by
  have hbonus : winBonus = 10000 := rfl
  have hvalue := b.finalValue_cases player
  have hlead : b.lead player = 0 ↔ b.outcome = .draw := lead_eq_zero_iff
  rw [← hlead]
  omega

end Board
end Reversi
