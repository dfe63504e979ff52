import Reversi.Proofs.Engine.GameValue
import Reversi.Proofs.Symmetry

/-!
# Reversi.Proofs.Engine.Symmetry

Values of positions know no preferred direction and no preferred colour, and what is worth
something to one player costs the other as much.

* `Symmetry.evaluate_board`, `Board.evaluate_recoloured`, `Board.evaluate_opponent`: the three laws
  for positions that are not searched; `finalValue_board` and so on for finished games.
* `Correspondence`: two games of which one is played just as the other, with a map of boards, sides
  to move, placements and values.
* `Correspondence.minimax`, `Correspondence.gameValue`: the values of searches and of perfect play
  correspond as well.
* `Board.minimax_symmetric`: the laws, of which each is an instance.
-/

namespace Reversi

/-! ## Rotations and reflections -/

namespace Symmetry

theorem square_bijective (σ : Symmetry) : Function.Bijective σ.square :=
  ⟨σ.square_injective, fun s => ⟨σ.inverse.square s, σ.square_inverse s⟩⟩

theorem weight_square (σ : Symmetry) (s : Square) : (σ.square s).weight = s.weight := by
  revert s
  cases σ <;> decide +kernel

theorem stake_board (σ : Symmetry) (b : Board) (side : Side) (s : Square) :
    (σ.board b).stake side (σ.square s) = b.stake side s := by
  simp only [Board.stake, get_board, weight_square]

theorem positional_board (σ : Symmetry) (b : Board) (side : Side) :
    (σ.board b).positional side = b.positional side := by
  rw [Board.positional_eq_sum, Board.positional_eq_sum]
  exact (Fintype.sum_bijective σ.square σ.square_bijective _ _
    fun s => (stake_board σ b side s).symm).symm

theorem mobility_board (σ : Symmetry) (b : Board) (side : Side) :
    (σ.board b).mobility side = b.mobility side := by
  rw [Board.mobility, Board.mobility, ← (legalMoves_board σ b side).length_eq, List.length_map]

theorem evaluate_board (σ : Symmetry) (b : Board) (side : Side) :
    (σ.board b).evaluate side = b.evaluate side := by
  simp only [Board.evaluate, positional_board, mobility_board]

theorem finalValue_board (σ : Symmetry) (b : Board) (side : Side) :
    (σ.board b).finalValue side = b.finalValue side := by
  have hlead : (σ.board b).lead side = b.lead side := by
    simp only [Board.lead, count_board]
  rw [Board.finalValue, Board.finalValue, hlead]

end Symmetry

namespace Board

/-! ## The other colour -/

theorem stake_recoloured (b : Board) (side : Side) (s : Square) :
    b.recoloured.stake side.opponent s = b.stake side s := by
  simp only [stake, get_recoloured, Cell.recoloured_eq_iff, Side.recoloured_disc,
    Side.opponent_opponent]

theorem evaluate_recoloured (b : Board) (side : Side) :
    b.recoloured.evaluate side.opponent = b.evaluate side := by
  have hpositional : b.recoloured.positional side.opponent = b.positional side := by
    simp only [positional_eq_sum, stake_recoloured]
  have hmine : b.recoloured.mobility side.opponent = b.mobility side := by
    rw [mobility, mobility, legalMoves_recoloured]
  have htheirs : b.recoloured.mobility side.opponent.opponent = b.mobility side.opponent := by
    rw [mobility, mobility, legalMoves_recoloured]
  rw [evaluate, evaluate, hpositional, hmine, htheirs]

theorem finalValue_recoloured (b : Board) (side : Side) :
    b.recoloured.finalValue side.opponent = b.finalValue side := by
  have hlead : b.recoloured.lead side.opponent = b.lead side := by
    simp only [lead, count_recoloured, Side.recoloured_disc, Side.opponent_opponent]
  rw [finalValue, finalValue, hlead]

/-! ## The other player -/

theorem stake_opponent (b : Board) (side : Side) (s : Square) :
    b.stake side.opponent s = -b.stake side s := by
  unfold stake
  rw [Side.opponent_opponent]
  by_cases hmine : b.get s = side.disc
  · have htheirs : b.get s ≠ side.opponent.disc := fun h =>
      side.disc_opponent_ne (h.symm.trans hmine)
    rw [if_neg htheirs, if_pos hmine, if_pos hmine]
  · by_cases htheirs : b.get s = side.opponent.disc
    · rw [if_pos htheirs, if_neg hmine, if_pos htheirs, Int.neg_neg]
    · rw [if_neg htheirs, if_neg hmine, if_neg hmine, if_neg htheirs, Int.neg_zero]

theorem evaluate_opponent (b : Board) (side : Side) :
    b.evaluate side.opponent = -b.evaluate side := by
  have hpositional : b.positional side.opponent = -b.positional side := by
    simp only [positional_eq_sum, stake_opponent, Finset.sum_neg_distrib]
  rw [evaluate, evaluate, hpositional, Side.opponent_opponent]
  omega

end Board

/-! ## Games that correspond -/

theorem Side.opponent_beq_opponent (s t : Side) : (s.opponent == t.opponent) = (s == t) := by
  cases s <;> cases t <;> rfl

theorem Side.beq_opponent (s t : Side) : (s == t.opponent) = !(s == t) := by
  cases s <;> cases t <;> rfl

theorem Under.neg {maximize : Bool} {x y : Int} (h : Under maximize x y) :
    Under (!maximize) (-x) (-y) := by
  cases maximize with
  | true => exact Int.neg_le_neg h
  | false => exact Int.neg_le_neg h

/-- Every position of the game that `player` looks at has its counterpart in the game that `player'`
looks at: with the counterpart of the side to move, of its placements and of the values, which keep
their order or reverse it as `player'` has the turn when `player` has it or not. -/
structure Correspondence (player player' : Side) where
  board : Board → Board
  side : Side → Side
  square : Square → Square
  value : Int → Int
  side_opponent (t : Side) : side t.opponent = (side t).opponent
  under {t : Side} {x y : Int} :
    Under (t == player) x y → Under (side t == player') (value x) (value y)
  legalMoves (b : Board) (t : Side) :
    ((b.legalMoves t).map square).Perm ((board b).legalMoves (side t))
  place (b : Board) (t : Side) (s : Square) :
    (board b).place (side t) (square s) = board (b.place t s)
  evaluate (b : Board) : (board b).evaluate player' = value (b.evaluate player)
  finalValue (b : Board) : (board b).finalValue player' = value (b.finalValue player)

namespace Correspondence

variable {player player' : Side}

theorem hasLegalMove (φ : Correspondence player player') (b : Board) (t : Side) :
    (φ.board b).hasLegalMove (φ.side t) = b.hasLegalMove t := by
  have hempty : ((φ.board b).legalMoves (φ.side t)).isEmpty = (b.legalMoves t).isEmpty := by
    rw [← (φ.legalMoves b t).isEmpty_eq, List.isEmpty_map]
  rw [Bool.eq_iff_iff, List.isEmpty_iff, List.isEmpty_iff, Board.legalMoves_eq_nil_iff,
    Board.legalMoves_eq_nil_iff] at hempty
  exact Bool.eq_iff_iff.2 (not_iff_not.1 (by simpa using hempty))

theorem optimal (φ : Correspondence player player') {b : Board} {t : Side} {f g : Square → Int}
    {x : Int} (h : Optimal (t == player) (b.legalMoves t) f x)
    (hfg : ∀ s, g (φ.square s) = φ.value (f s)) :
    Optimal (φ.side t == player') ((φ.board b).legalMoves (φ.side t)) g (φ.value x) := by
  constructor
  · obtain ⟨s, hs, rfl⟩ := h.reached
    exact ⟨φ.square s, (φ.legalMoves b t).subset (List.mem_map_of_mem hs), hfg s⟩
  · intro s' hs'
    obtain ⟨s, hs, rfl⟩ := List.mem_map.1 ((φ.legalMoves b t).symm.subset hs')
    rw [hfg]
    exact φ.under (h.bound s hs)

theorem hasLegalMove_opponent (φ : Correspondence player player') (b : Board) (t : Side) :
    (φ.board b).hasLegalMove (φ.side t).opponent = b.hasLegalMove t.opponent := by
  rw [← φ.side_opponent, φ.hasLegalMove]

theorem minimax_over (φ : Correspondence player player') {t : Side} {b : Board} (n : Nat)
    (ht : b.hasLegalMove t = false) (ho : b.hasLegalMove t.opponent = false) :
    (φ.board b).minimax player' n (φ.side t) = φ.value (b.minimax player n t) := by
  rw [Board.minimax_over ht ho, ← φ.finalValue]
  exact Board.minimax_over (by rwa [φ.hasLegalMove]) (by rwa [φ.hasLegalMove_opponent])

/-- By induction on the depth; of the ways to go on only a placement compares values. -/
theorem minimax (φ : Correspondence player player') (n : Nat) (t : Side) (b : Board) :
    (φ.board b).minimax player' n (φ.side t) = φ.value (b.minimax player n t) := by
  induction n generalizing t b with
  | zero =>
    by_cases hon : b.hasLegalMove t = true ∨ b.hasLegalMove t.opponent = true
    · rw [Board.minimax_static hon, ← φ.evaluate]
      exact Board.minimax_static (by rwa [φ.hasLegalMove, φ.hasLegalMove_opponent])
    · obtain ⟨ht, ho⟩ : b.hasLegalMove t = false ∧ b.hasLegalMove t.opponent = false := by
        simpa using hon
      exact φ.minimax_over 0 ht ho
  | succ n ih =>
    cases ht : b.hasLegalMove t with
    | true =>
      have hvalue : Optimal (φ.side t == player') ((φ.board b).legalMoves (φ.side t))
          (fun s => ((φ.board b).place (φ.side t) s).minimax player' n (φ.side t).opponent)
          (φ.value (b.minimax player (n + 1) t)) := by
        refine φ.optimal (Board.minimax_optimal ht) fun s => ?_
        rw [φ.place, ← φ.side_opponent]
        exact ih t.opponent (b.place t s)
      exact (Board.minimax_optimal (by rwa [φ.hasLegalMove])).unique hvalue
    | false =>
      cases ho : b.hasLegalMove t.opponent with
      | true =>
        rw [Board.minimax_pass ht ho, ← ih, φ.side_opponent]
        exact Board.minimax_pass (by rwa [φ.hasLegalMove]) (by rwa [φ.hasLegalMove_opponent])
      | false => exact φ.minimax_over (n + 1) ht ho

/-- Perfect play is worth what a search finds that reaches the end of both games. -/
theorem gameValue (φ : Correspondence player player') (t : Side) (b : Board) :
    (φ.board b).gameValue player' (φ.side t) = φ.value (b.gameValue player t) := by
  have hreach := le_max_left (b.horizon t) ((φ.board b).horizon (φ.side t))
  have hreach' := le_max_right (b.horizon t) ((φ.board b).horizon (φ.side t))
  rw [← Board.minimax_eq_gameValue hreach, ← Board.minimax_eq_gameValue hreach', φ.minimax]

end Correspondence

/-! ## The three laws -/

def Symmetry.correspondence (σ : Symmetry) (player : Side) : Correspondence player player where
  board := σ.board
  side := id
  square := σ.square
  value := id
  side_opponent _ := rfl
  under h := h
  legalMoves b t := σ.legalMoves_board b t
  place b t s := σ.place_board b t s
  evaluate b := σ.evaluate_board b player
  finalValue b := σ.finalValue_board b player

namespace Correspondence

/-- The game of the other player with discs of the other colour. -/
def recoloured (player : Side) : Correspondence player player.opponent where
  board := Board.recoloured
  side := Side.opponent
  square := id
  value := id
  side_opponent _ := rfl
  under {t _ _} h := by rwa [Side.opponent_beq_opponent]
  legalMoves b t := by rw [List.map_id, Board.legalMoves_recoloured]
  place b t s := b.place_recoloured t s
  evaluate b := b.evaluate_recoloured player
  finalValue b := b.finalValue_recoloured player

/-- The same game in the eyes of the other player. -/
def opposed (player : Side) : Correspondence player player.opponent where
  board := id
  side := id
  square := id
  value x := -x
  side_opponent _ := rfl
  under {t _ _} h := by
    rw [Side.beq_opponent]
    exact h.neg
  legalMoves b t := by rw [List.map_id]; rfl
  place _ _ _ := rfl
  evaluate b := b.evaluate_opponent player
  finalValue b := b.finalValue_opponent player

end Correspondence

namespace Board

/-- The value of a position that is not searched, that of a finished game, that of a search to any
depth and that of perfect play are the same on every rotation or reflection of the board. They are
the same for the other player with discs of the other colour. For the other player on the same board
they are the negative. -/
theorem minimax_symmetric (player t : Side) (n : Nat) (b : Board) :
    (∀ σ : Symmetry,
      (σ.board b).evaluate player = b.evaluate player ∧
      (σ.board b).finalValue player = b.finalValue player ∧
      (σ.board b).minimax player n t = b.minimax player n t ∧
      (σ.board b).gameValue player t = b.gameValue player t) ∧
    (b.recoloured.evaluate player.opponent = b.evaluate player ∧
      b.recoloured.finalValue player.opponent = b.finalValue player ∧
      b.recoloured.minimax player.opponent n t.opponent = b.minimax player n t ∧
      b.recoloured.gameValue player.opponent t.opponent = b.gameValue player t) ∧
    b.evaluate player.opponent = -b.evaluate player ∧
    b.finalValue player.opponent = -b.finalValue player ∧
    b.minimax player.opponent n t = -b.minimax player n t ∧
    b.gameValue player.opponent t = -b.gameValue player t := by
  refine ⟨fun σ => ?_, ?_, ?_⟩
  · exact ⟨σ.evaluate_board b player, σ.finalValue_board b player,
      (σ.correspondence player).minimax n t b, (σ.correspondence player).gameValue t b⟩
  · exact ⟨b.evaluate_recoloured player, b.finalValue_recoloured player,
      (Correspondence.recoloured player).minimax n t b,
      (Correspondence.recoloured player).gameValue t b⟩
  · exact ⟨b.evaluate_opponent player, b.finalValue_opponent player,
      (Correspondence.opposed player).minimax n t b,
      (Correspondence.opposed player).gameValue t b⟩

end Board
end Reversi
