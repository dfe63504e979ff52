import Reversi.Proofs.Engine.Choice
import Reversi.Proofs.Engine.GameValue

/-!
# Reversi.Proofs.Engine.Endgame

Choices that look ahead to the end of the game.

* `Search.Ending`: an entry is not above a level, and if it is deep enough to reach the end of the
  game it tells the truth about the value of the game. Shallow entries may say anything.
* `Search.endingRegime`: every search of a choice keeps a table of such entries.
* `Engine.choose_keeps_value`: a choice whose depth is twice the number of free squares keeps the
  value of the game.
-/

namespace Reversi
namespace Search

variable {p : Search} {root : Board} {mover : Side} {d : Nat} {m m' : Int}
  {W : Board → Side → Prop} {c : Board} {u : Side} {e : Entry}

structure Ending (p : Search) (m : Int) (c : Board) (u : Side) (e : Entry) : Prop where
  le : e.depth - c.empties ≤ m
  truthful : 2 * (c.empties : Int) ≤ e.depth → e.Truthful (c.gameValue p.player u)

theorem Ending.mono (h : p.Ending m c u e) (hm : m ≤ m') : p.Ending m' c u e :=
  ⟨h.le.trans hm, h.truthful⟩

/-- The nodes that have to return the truth are those from which the search reaches the end of the
game; then so do all nodes below them. -/
def endingRegime (hp : p.Orderly) (hkeys : p.KeysApart W)
    (hW : ∀ {c u}, root.Expanded mover d c u → W c u) (hm : (d : Int) - root.empties ≤ m) :
    Regime p root mover d where
  Watched := W
  Allowed := p.Ending m
  Settled c u n := c.horizon u ≤ n
  orderly := hp
  keysApart := hkeys
  watched := hW
  settled_place := by
    intro c u n s hn hs
    have := Board.horizon_place hs u.opponent
    omega
  settled_pass := by
    intro c u n hn hu ho
    have := Board.horizon_pass hu ho
    omega
  truthful := by
    intro k c u n e _ _ hn hu hallowed hdeep
    rw [Board.minimax_eq_gameValue hn]
    rw [Board.horizon_of_move hu] at hn
    exact hallowed.truthful (by omega)
  allowed := by
    intro k c u n e h hk hu hdepth htrue
    have hfill := h.empties_le_add
    refine ⟨by omega, fun hend => ?_⟩
    have hn : c.horizon u ≤ n + 1 := by
      rw [Board.horizon_of_move hu]
      omega
    rw [← Board.minimax_eq_gameValue hn]
    exact htrue hn

end Search

namespace Engine

/-- A choice leaves a table that tells the truth about the ends of games, and if its own search
reaches the end of the game it keeps the value of the game. -/
theorem choose_keeps_value {e : Engine} {b : Board} {c : Choice} {D : Nat}
    {W : Board → Side → Prop} (h : e.choose b none = .ok c) (hdepth : e.depth = D) (hD : 1 ≤ D)
    (hkeys : e.search.KeysApart W) (hW : ∀ {c u}, b.Expanded e.side D c u → W c u)
    (hkept : e.search.Remembers W (e.search.Ending ((D : Int) - b.empties - 1)) e.table) :
    (2 * b.empties ≤ D → (b.place e.side c.square).gameValue e.side e.side.opponent =
        b.gameValue e.side e.side) ∧
      e.search.Remembers W (e.search.Ending ((D : Int) - b.empties)) c.engine.table := by
  obtain ⟨d, rfl⟩ : ∃ d, D = d + 1 := ⟨D - 1, by omega⟩
  have hlegal := choose_legal h
  have hmove := Board.hasLegalMove_of_mem hlegal
  have hrising : ∀ d' ≤ d, ∃ R : Search.Regime e.search b e.side d', R.Keeps =
      e.search.Remembers W (e.search.Ending (((d + 1 : Nat) : Int) - b.empties - 1)) :=
    fun d' hd' => ⟨Search.endingRegime e.search_orderly hkeys (fun h => hW (h.mono (by omega)))
      (by omega), rfl⟩
  let last := Search.endingRegime (m := ((d + 1 : Nat) : Int) - b.empties) e.search_orderly hkeys
    hW (Int.le_refl _)
  rcases choose_sound h hdepth hkept (hW ⟨hmove, 0, by omega, .here⟩)
      (fun h => by have := h.le; omega) hrising last
      (fun hbefore => hbefore.mono fun _ h => h.mono (by omega))
    with ⟨hsingle, he⟩ | ⟨hafter, hbest⟩
  · rw [he]
    refine ⟨fun _ => ?_, hkept.mono fun _ h => h.mono (by omega)⟩
    have hopt : Optimal (e.side == e.side) (b.legalMoves e.side)
        (fun s => (b.place e.side s).gameValue e.side e.side.opponent)
        (b.gameValue e.side e.side) := Board.gameValue_optimal hmove
    obtain ⟨s, hs, hvalue⟩ := hopt.reached
    rw [hsingle, List.mem_singleton] at hs
    rw [← hs, hvalue]
  · refine ⟨fun hend => ?_, hafter⟩
    have hsettled : b.horizon e.side ≤ d + 1 := by rwa [Board.horizon_of_move hmove]
    have hchild := Board.horizon_place hlegal e.side.opponent
    have hvalue := hbest hsettled
    rwa [Board.minimax_eq_gameValue hsettled, Board.minimax_eq_gameValue (by omega)] at hvalue

end Engine
end Reversi
