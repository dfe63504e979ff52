import Mathlib.Tactic.Order
import Reversi.Engine.Minimax
import Reversi.Proofs.Bracket

/-!
# Reversi.Proofs.Engine.Minimax

The four cases of the plain value, and what choosing the best placement means.

* `Under`: the order in which a side compares values, upward or downward.
* `Optimal`: a value that some placement reaches and no placement beats.
* `Board.minimax_over`, `minimax_static`, `minimax_pass`, `minimax_optimal`: one law for each case
  of the plain value.
-/

namespace Reversi

/-- `y` is at least as good as `x` for a side that wants great values, or small ones. -/
def Under {α : Type} [LE α] (maximize : Bool) (x y : α) : Prop :=
  if maximize then x ≤ y else y ≤ x

namespace Under

variable {α : Type} [LinearOrder α] {maximize : Bool} {x y z : α}

theorem refl (maximize : Bool) (x : α) : Under maximize x x := by
  cases maximize <;> exact le_refl x

theorem trans (h : Under maximize x y) (h' : Under maximize y z) : Under maximize x z := by
  cases maximize with
  | true => exact le_trans h h'
  | false => exact le_trans h' h

theorem antisymm (h : Under maximize x y) (h' : Under maximize y x) : x = y := by
  cases maximize with
  | true => exact le_antisymm h h'
  | false => exact le_antisymm h' h

end Under

/-- `x` is reached by one of the placements, and none leads to a better value. -/
structure Optimal (maximize : Bool) (moves : List Square) (f : Square → Int) (x : Int) : Prop where
  reached : ∃ s ∈ moves, f s = x
  bound : ∀ s ∈ moves, Under maximize (f s) x

theorem Optimal.congr {maximize : Bool} {moves : List Square} {f g : Square → Int} {x : Int}
    (h : Optimal maximize moves f x) (hfg : ∀ s ∈ moves, f s = g s) :
    Optimal maximize moves g x := by
  obtain ⟨s, hs, hx⟩ := h.reached
  refine ⟨⟨s, hs, (hfg s hs).symm.trans hx⟩, fun t ht => ?_⟩
  rw [← hfg t ht]
  exact h.bound t ht

theorem Optimal.unique {maximize : Bool} {moves : List Square} {f : Square → Int} {x y : Int}
    (hx : Optimal maximize moves f x) (hy : Optimal maximize moves f y) : x = y := by
  obtain ⟨s, hs, rfl⟩ := hx.reached
  obtain ⟨t, ht, rfl⟩ := hy.reached
  exact (hy.bound s hs).antisymm (hx.bound t ht)

/-! ## The best of a list -/

theorem best_cons (maximize : Bool) (x y : Int) (ys : List Int) :
    best maximize x (y :: ys) = best maximize (if maximize then max x y else min x y) ys := rfl

theorem best_mem (maximize : Bool) (x : Int) (xs : List Int) :
    best maximize x xs ∈ x :: xs := by
  induction xs generalizing x with
  | nil => exact List.mem_cons_self
  | cons y ys ih =>
    rw [best_cons]
    have h := ih (if maximize then max x y else min x y)
    rcases List.mem_cons.1 h with h | h
    · rw [h]
      cases maximize <;> simp only [List.mem_cons, if_true, Bool.false_eq_true, if_false] <;> omega
    · exact List.mem_cons_of_mem _ (List.mem_cons_of_mem _ h)

theorem under_best (maximize : Bool) (x : Int) (xs : List Int) :
    ∀ y ∈ x :: xs, Under maximize y (best maximize x xs) := by
  induction xs generalizing x with
  | nil =>
    intro y hy
    rw [List.mem_singleton.1 hy]
    exact .refl maximize x
  | cons z zs ih =>
    intro y hy
    rw [best_cons]
    have hstart := ih (if maximize then max x z else min x z) _ List.mem_cons_self
    have hx : Under maximize x (if maximize then max x z else min x z) := by
      cases maximize <;> simp [Under]
    have hz : Under maximize z (if maximize then max x z else min x z) := by
      cases maximize <;> simp [Under]
    rcases List.mem_cons.1 hy with rfl | hy
    · exact hx.trans hstart
    · rcases List.mem_cons.1 hy with rfl | hy
      · exact hz.trans hstart
      · exact ih _ y (List.mem_cons_of_mem _ hy)

theorem optimal_best (maximize : Bool) (f : Square → Int) (s : Square) (rest : List Square) :
    Optimal maximize (s :: rest) f (best maximize (f s) (rest.map f)) := by
  constructor
  · have h := best_mem maximize (f s) (rest.map f)
    rw [← List.map_cons] at h
    exact List.mem_map.1 h
  · intro s' hs'
    refine under_best _ _ _ _ ?_
    rw [← List.map_cons]
    exact List.mem_map_of_mem hs'

/-! ## The cases of the plain value -/

namespace Board

variable {player t : Side} {b : Board} {n : Nat}

theorem minimax_over (ht : b.hasLegalMove t = false) (ho : b.hasLegalMove t.opponent = false) :
    minimax player n t b = b.finalValue player := by
  cases n with
  | zero => simp [minimax, ht, ho]
  | succ n => simp [minimax, legalMoves_eq_nil_iff.2 ht, ho]

theorem minimax_static (h : b.hasLegalMove t = true ∨ b.hasLegalMove t.opponent = true) :
    minimax player 0 t b = b.evaluate player := by
  rcases h with h | h <;> simp [minimax, h]

theorem minimax_pass (ht : b.hasLegalMove t = false) (ho : b.hasLegalMove t.opponent = true) :
    minimax player (n + 1) t b = minimax player n t.opponent b := by
  simp [minimax, legalMoves_eq_nil_iff.2 ht, ho]

theorem minimax_optimal (ht : b.hasLegalMove t = true) :
    Optimal (t == player) (b.legalMoves t) (fun s => minimax player n t.opponent (b.place t s))
      (minimax player (n + 1) t b) := by
  have hne : b.legalMoves t ≠ [] := fun h => by simp [legalMoves_eq_nil_iff.1 h] at ht
  obtain ⟨s, rest, hmoves⟩ := List.exists_cons_of_ne_nil hne
  have hvalue : minimax player (n + 1) t b =
      best (t == player) (minimax player n t.opponent (b.place t s))
        (rest.map fun s => minimax player n t.opponent (b.place t s)) := by
    simp only [minimax, hmoves, List.map_cons]
  rw [hvalue, hmoves]
  exact optimal_best _ _ s rest

theorem minimax_place_le {s : Square} (hs : s ∈ b.legalMoves player) :
    minimax player n player.opponent (b.place player s) ≤ minimax player (n + 1) player b := by
  have hopt : Optimal (player == player) (b.legalMoves player)
      (fun s => minimax player n player.opponent (b.place player s))
      (minimax player (n + 1) player b) := minimax_optimal (hasLegalMove_of_mem hs)
  simpa [Under] using hopt.bound s hs

end Board

end Reversi
