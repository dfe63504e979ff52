import Reversi.Proofs.Engine.Evaluation
import Reversi.Proofs.Engine.Minimax

/-!
# Reversi.Proofs.Engine.GameValue

What a position is worth when both sides play perfectly to the end.

* `Board.horizon`: a game ends within that many plies.
* `Board.gameValue`: the final value that the player and the opponent lead to, each at their best.
* `Board.gameValue_over`, `gameValue_pass`, `gameValue_optimal`: one law for each way to go on.
* `Board.minimax_eq_gameValue`: the plain value at a depth that reaches the end of the game.
* `Board.Forces`: the player has a strategy that wins against every reply.
-/

namespace Reversi
namespace Board

/-- Every two plies fill a square, and after a pass the next ply fills one. -/
def horizon (b : Board) (t : Side) : Nat := 2 * b.empties + if b.hasLegalMove t then 0 else 1

variable {player t : Side} {b : Board} {s : Square}

theorem horizon_of_move (h : b.hasLegalMove t = true) : b.horizon t = 2 * b.empties := by
  rw [horizon, if_pos h, Nat.add_zero]

theorem horizon_place (h : s ∈ b.legalMoves t) (u : Side) :
    (b.place t s).horizon u < b.horizon t := by
  have hfill := empties_place_of_legal h
  simp only [horizon]
  split <;> split <;> omega

theorem horizon_pass (ht : b.hasLegalMove t = false) (ho : b.hasLegalMove t.opponent = true) :
    b.horizon t.opponent < b.horizon t := by
  simp [horizon, ht, ho]

/-- The value of the finished game for the player, if both sides play at their best. -/
def gameValue (player t : Side) (b : Board) : Int :=
  match _hmoves : b.legalMoves t with
  | s :: rest =>
    best (t == player) (gameValue player t.opponent (b.place t s))
      (rest.attach.map fun s => gameValue player t.opponent (b.place t s.1))
  | [] =>
    if _ho : b.hasLegalMove t.opponent then gameValue player t.opponent b
    else b.finalValue player
termination_by b.horizon t
decreasing_by
  · exact horizon_place (by simp [_hmoves]) _
  · exact horizon_place (by simp [_hmoves, s.2]) _
  · exact horizon_pass (legalMoves_eq_nil_iff.1 _hmoves) _ho

theorem gameValue_over (ht : b.hasLegalMove t = false) (ho : b.hasLegalMove t.opponent = false) :
    gameValue player t b = b.finalValue player := by
  rw [gameValue]
  split
  · rename_i hmoves
    simp [legalMoves_eq_nil_iff.2 ht] at hmoves
  · simp [ho]

theorem gameValue_pass (ht : b.hasLegalMove t = false) (ho : b.hasLegalMove t.opponent = true) :
    gameValue player t b = gameValue player t.opponent b := by
  rw [gameValue]
  split
  · rename_i hmoves
    simp [legalMoves_eq_nil_iff.2 ht] at hmoves
  · simp [ho]

theorem gameValue_optimal (ht : b.hasLegalMove t = true) :
    Optimal (t == player) (b.legalMoves t) (fun s => gameValue player t.opponent (b.place t s))
      (gameValue player t b) := by
  rw [gameValue]
  split
  · rename_i s rest hmoves
    rw [hmoves, List.attach_map_val (f := fun s => gameValue player t.opponent (b.place t s))]
    exact optimal_best _ _ s rest
  · rename_i hmoves
    simp [legalMoves_eq_nil_iff.1 hmoves] at ht

theorem minimax_eq_gameValue {n : Nat} (hn : b.horizon t ≤ n) :
    b.minimax player n t = b.gameValue player t := by
  induction n generalizing b t with
  | zero =>
    cases ht : b.hasLegalMove t with
    | true =>
      have := empties_pos ht
      rw [horizon_of_move ht] at hn
      omega
    | false => simp [horizon, ht] at hn
  | succ n ih =>
    cases ht : b.hasLegalMove t with
    | true =>
      have hvalue : Optimal (t == player) (b.legalMoves t)
          (fun s => gameValue player t.opponent (b.place t s)) (minimax player (n + 1) t b) :=
        (minimax_optimal ht).congr fun s hs => ih (by have := horizon_place hs t.opponent; omega)
      exact hvalue.unique (gameValue_optimal ht)
    | false =>
      cases ho : b.hasLegalMove t.opponent with
      | true =>
        rw [minimax_pass ht ho, gameValue_pass ht ho]
        exact ih (by have := horizon_pass ht ho; omega)
      | false => rw [minimax_over ht ho, gameValue_over ht ho]

/-! ## Strategies -/

/-- The player can win from the position, whatever the opponent replies. -/
inductive Forces (player : Side) : Side → Board → Prop where
  | won {t : Side} {b : Board} : b.hasLegalMove t = false → b.hasLegalMove t.opponent = false →
      b.outcome = .won player → Forces player t b
  | pass {t : Side} {b : Board} : b.hasLegalMove t = false → b.hasLegalMove t.opponent = true →
      Forces player t.opponent b → Forces player t b
  | choose {b : Board} {s : Square} : s ∈ b.legalMoves player →
      Forces player player.opponent (b.place player s) → Forces player player b
  | reply {b : Board} : b.hasLegalMove player.opponent = true →
      (∀ s ∈ b.legalMoves player.opponent,
        Forces player player (b.place player.opponent s)) → Forces player player.opponent b

theorem gameValue_place_le (hs : s ∈ b.legalMoves player) :
    (b.place player s).gameValue player player.opponent ≤ b.gameValue player player := by
  have hopt : Optimal (player == player) (b.legalMoves player)
      (fun s => gameValue player player.opponent (b.place player s)) (gameValue player player b) :=
    gameValue_optimal (hasLegalMove_of_mem hs)
  simpa [Under] using hopt.bound s hs

theorem le_gameValue_place (hs : s ∈ b.legalMoves player.opponent) :
    b.gameValue player player.opponent ≤ (b.place player.opponent s).gameValue player player := by
  have hopt : Optimal (player.opponent == player) (b.legalMoves player.opponent)
      (fun s => gameValue player player.opponent.opponent (b.place player.opponent s))
      (gameValue player player.opponent b) := gameValue_optimal (hasLegalMove_of_mem hs)
  simpa [Under, player.opponent_ne] using hopt.bound s hs

theorem Forces.gameValue_pos (h : Forces player t b) : 0 < b.gameValue player t := by
  induction h with
  | won ht ho hwon =>
    rw [gameValue_over ht ho]
    exact finalValue_pos_iff.2 hwon
  | pass ht ho _ ih =>
    rw [gameValue_pass ht ho]
    exact ih
  | choose hs _ ih => exact lt_of_lt_of_le ih (gameValue_place_le hs)
  | @reply b ht _ ih =>
    have hopt : Optimal (player.opponent == player) (b.legalMoves player.opponent)
        (fun s => gameValue player player.opponent.opponent (b.place player.opponent s))
        (gameValue player player.opponent b) := gameValue_optimal ht
    obtain ⟨s, hs, hvalue⟩ := hopt.reached
    rw [Side.opponent_opponent] at hvalue
    rw [← hvalue]
    exact ih s hs

end Board
end Reversi
