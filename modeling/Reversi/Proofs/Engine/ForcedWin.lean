import Reversi.Proofs.Engine.Evaluation
import Reversi.Proofs.Engine.Kept

/-!
# Reversi.Proofs.Engine.ForcedWin

A won game is worth more than every position that is not decided, so a search that can see a forced
win goes for it.

* `Board.ForcesWithin`: the player can win within a number of plies, whatever the opponent replies.
* `Board.forcesWithin_iff`: such a strategy exists exactly if the plain value is that of a won game.
* `Engine.choose_keeps_forced_win`: a fresh engine never lets a forced win within its depth slip.
-/

namespace Reversi
namespace Board

variable {player t : Side} {b : Board} {n : Nat}

/-! ## Strategies -/

/-- The player has a strategy that leads to a finished game won by the player within `n` plies,
whatever the opponent replies. A forced pass is a ply. -/
inductive ForcesWithin (player : Side) : Nat → Side → Board → Prop where
  | won {n : Nat} {t : Side} {b : Board} : b.hasLegalMove t = false →
      b.hasLegalMove t.opponent = false → b.outcome = .won player → ForcesWithin player n t b
  | pass {n : Nat} {t : Side} {b : Board} : b.hasLegalMove t = false →
      b.hasLegalMove t.opponent = true → ForcesWithin player n t.opponent b →
      ForcesWithin player (n + 1) t b
  | choose {n : Nat} {b : Board} {s : Square} : s ∈ b.legalMoves player →
      ForcesWithin player n player.opponent (b.place player s) → ForcesWithin player (n + 1) player b
  | reply {n : Nat} {t : Side} {b : Board} : t ≠ player → b.hasLegalMove t = true →
      (∀ s ∈ b.legalMoves t, ForcesWithin player n t.opponent (b.place t s)) →
      ForcesWithin player (n + 1) t b

theorem ForcesWithin.winBonus_lt (h : ForcesWithin player n t b) :
    winBonus < b.minimax player n t := by
  induction h with
  | won ht ho hwon =>
    rw [minimax_over ht ho]
    exact winBonus_lt_finalValue_iff.2 hwon
  | pass ht ho _ ih =>
    rw [minimax_pass ht ho]
    exact ih
  | choose hs _ ih => exact lt_of_lt_of_le ih (minimax_place_le hs)
  | @reply n t b _ ht _ ih =>
    have hopt : Optimal (t == player) (b.legalMoves t)
        (fun s => minimax player n t.opponent (b.place t s)) (minimax player (n + 1) t b) :=
      minimax_optimal ht
    obtain ⟨s, hs, hvalue⟩ := hopt.reached
    rw [← hvalue]
    exact ih s hs

/-- A value beyond the bonus comes from a finished game, as no other position is worth so much. -/
theorem forcesWithin_of_winBonus_lt (h : winBonus < b.minimax player n t) :
    ForcesWithin player n t b := by
  induction n generalizing b t with
  | zero =>
    cases ht : b.hasLegalMove t with
    | true =>
      rw [minimax_static (.inl ht)] at h
      exact absurd h (b.evaluate_lt player).not_gt
    | false =>
      cases ho : b.hasLegalMove t.opponent with
      | true =>
        rw [minimax_static (.inr ho)] at h
        exact absurd h (b.evaluate_lt player).not_gt
      | false =>
        rw [minimax_over ht ho] at h
        exact .won ht ho (winBonus_lt_finalValue_iff.1 h)
  | succ n ih =>
    cases ht : b.hasLegalMove t with
    | false =>
      cases ho : b.hasLegalMove t.opponent with
      | true =>
        rw [minimax_pass ht ho] at h
        exact .pass ht ho (ih h)
      | false =>
        rw [minimax_over ht ho] at h
        exact .won ht ho (winBonus_lt_finalValue_iff.1 h)
    | true =>
      have hopt : Optimal (t == player) (b.legalMoves t)
          (fun s => minimax player n t.opponent (b.place t s)) (minimax player (n + 1) t b) :=
        minimax_optimal ht
      by_cases hturn : t = player
      · subst hturn
        obtain ⟨s, hs, hvalue⟩ := hopt.reached
        rw [← hvalue] at h
        exact .choose hs (ih h)
      · refine .reply hturn ht fun s hs => ih ?_
        have hbound := hopt.bound s hs
        simp only [Under, beq_iff_eq, if_neg hturn] at hbound
        exact lt_of_lt_of_le h hbound

theorem forcesWithin_iff : ForcesWithin player n t b ↔ winBonus < b.minimax player n t :=
  ⟨ForcesWithin.winBonus_lt, forcesWithin_of_winBonus_lt⟩

theorem Best.forcesWithin {s : Square} (h : b.Best player n s)
    (hwin : ForcesWithin player (n + 1) player b) :
    ForcesWithin player n player.opponent (b.place player s) := by
  have hopt : Optimal (player == player) (b.legalMoves player)
      (fun s => minimax player n player.opponent (b.place player s))
      (minimax player (n + 1) player b) := minimax_optimal (hasLegalMove_of_mem h.legal)
  obtain ⟨s', hs', hvalue⟩ := hopt.reached
  rw [forcesWithin_iff] at hwin ⊢
  rw [← hvalue] at hwin
  exact lt_of_lt_of_le hwin (h.greatest s' hs')

end Board

namespace Engine

/-- A position that is not decided is worth less than a won game and more than a lost one, and the
value of a finished game tells who has won it. So a fresh engine of depth 1 to 4 that can force a
win within its depth chooses a placement after which it can still force it, in one ply less, in
whichever order it meets the placements. -/
theorem choose_keeps_forced_win :
    (∀ (b : Board) (side : Side),
      -Board.winBonus < b.evaluate side ∧ b.evaluate side < Board.winBonus ∧
      (Board.winBonus < b.finalValue side ↔ b.outcome = .won side) ∧
      (b.finalValue side < -Board.winBonus ↔ b.outcome = .won side.opponent) ∧
      (b.finalValue side = 0 ↔ b.outcome = .draw)) ∧
    ∀ (side : Side) (b : Board) (D : Nat) (setup : Setup), 1 ≤ D → D ≤ 4 →
      b.hasLegalMove side = true →
      (fresh side D setup).search.KeysApart (b.Expanded side D) →
      Board.ForcesWithin side D side b →
      ∃ c, (fresh side D setup).choose b none = .ok c ∧ c.square ∈ b.legalMoves side ∧
        Board.ForcesWithin side (D - 1) side.opponent (b.place side c.square) := by
  constructor
  · intro b side
    exact ⟨b.neg_winBonus_lt_evaluate side, b.evaluate_lt side, Board.winBonus_lt_finalValue_iff,
      Board.finalValue_lt_neg_winBonus_iff, Board.finalValue_eq_zero_iff⟩
  · intro side b D setup hD hD' hmove hkeys hwin
    have hchoice : ∃ c, (fresh side D setup).choose b none = .ok c := choose_ok hmove
    obtain ⟨c, hc⟩ := hchoice
    have hempty : (fresh side D setup).search.Remembers (b.Expanded side D)
        ((fresh side D setup).search.Levelled D ((D : Int) - b.empties - 1))
        (fresh side D setup).table :=
      Search.remembers_empty _ _ _
    have hbest : b.Best side (D - 1) c.square :=
      (choose_best hc rfl hD hD' hkeys (fun h => h) hempty).1
    obtain ⟨n, rfl⟩ : ∃ n, D = n + 1 := ⟨D - 1, by omega⟩
    exact ⟨c, hc, hbest.legal, hbest.forcesWithin hwin⟩

end Engine

/-- White wins from the third row, whatever Black replies. If White takes the square at the top
edge, Black can win. -/
def Board.fork : Board :=
  let e := Cell.empty
  let x := Cell.black
  let o := Cell.white
  ⟨#v[
    o, o, o, e, x, o, o, o,
    o, o, o, o, o, o, o, o,
    o, o, e, x, o, o, o, o,
    o, x, o, o, o, o, o, e,
    x, x, x, o, o, o, o, o,
    x, x, o, o, o, o, o, x,
    x, o, o, o, o, o, o, o,
    o, x, o, e, o, o, x, x]⟩

namespace Engine

/-- A win that takes four plies, and that only one of two placements keeps. -/
theorem choose_keeps_forced_win_fork :
    let e := fresh .white (4 : Nat) (.ofWords .numbered)
    e.search.KeysApart (Board.fork.Expanded .white 4) ∧
      Board.ForcesWithin .white 4 .white .fork ∧
      (∃ s ∈ Board.fork.legalMoves .white,
        ¬ Board.ForcesWithin .white 3 .black (Board.fork.place .white s)) ∧
      ∃ c, e.choose .fork none = .ok c ∧ c.square ∈ Board.fork.legalMoves .white ∧
        Board.ForcesWithin .white 3 .black (Board.fork.place .white c.square) := by
  intro e
  have hmove : Board.fork.hasLegalMove .white = true := by decide +kernel
  have hkeys : e.search.KeysApart (Board.fork.Expanded .white 4) :=
    Search.keysApart_of_nodup Board.Expanded.mem_expansions (by decide +kernel)
  have hwin : Board.ForcesWithin .white 4 .white .fork :=
    Board.forcesWithin_iff.2 (by decide +kernel)
  refine ⟨hkeys, hwin, ⟨⟨0, 3⟩, by decide +kernel, fun h => ?_⟩,
    choose_keeps_forced_win.2 .white .fork 4 _ (by decide) (by decide) hmove hkeys hwin⟩
  have hlost : ¬ Board.winBonus < (Board.fork.place .white ⟨0, 3⟩).minimax .white 3 .black := by
    decide +kernel
  exact hlost (Board.forcesWithin_iff.1 h)

end Engine
end Reversi
