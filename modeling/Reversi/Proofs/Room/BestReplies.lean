import Reversi.Proofs.Engine.Kept
import Reversi.Proofs.Room.Session

/-!
# Reversi.Proofs.Room.BestReplies

The engine's placements over a whole game, with one table for all of its searches.

* `Room.after_best`: up to depth 4 every placement of the engine is a best one at full depth.
* `Room.after_best_finale`: a game of two choices.
-/

namespace Reversi
namespace Room

/-- Up to depth 4, the depths that a room can have, the engine plays legal placements of greatest
plain value at full depth, in every game. -/
theorem after_best {id : Int} {start : Board} {D : Nat} {setup : Engine.Setup}
    {requests : List Request} {r : Room}
    (hD : 1 ≤ D) (hD' : D ≤ 4) (hr : (empty id .engine start D setup).after requests = r)
    (hkeys : (Engine.fresh .white D setup).search.KeysApart (Foreseen start r.log D))
    (before after : List MoveRecord) {m : MoveRecord} (hlog : r.log = before ++ m :: after)
    (hm : m.side = .white) : (boardAfter start before).Best .white (D - 1) m.square := by
  let p := (Engine.fresh .white D setup).search
  refine replies_of_level p (p.Levelled D) (fun b s => b.Best .white (D - 1) s) hr
    (fun hm h => h.mono hm) ?_ before m after hlog hm
  intro b e c hcalled hopposing hc hkept
  have hsearch := hopposing.search_eq
  have hchoice := Engine.choose_best hc hopposing.depth hD hD' (hsearch ▸ hkeys)
    (fun h => ⟨_, hcalled, hopposing.side ▸ h⟩) (hsearch ▸ hkept)
  rwa [hopposing.side, hsearch] at hchoice

/-- The engine chooses twice, the second time with the table of the first. -/
theorem after_best_finale :
    (Engine.fresh .white (4 : Nat) (.ofWords .numbered)).search.KeysApart
        (Foreseen .finale (finale (4 : Nat)).log 4) ∧
      ∃ m₁ m₂ m₃ m₄, (finale (4 : Nat)).log = [m₁, m₂, m₃, m₄] ∧
        m₁.side = .white ∧ Board.finale.Best .white 3 m₁.square ∧
        m₃.side = .white ∧ (boardAfter .finale [m₁, m₂]).Best .white 3 m₃.square := by
  have hkeys := finale_keys 4
  obtain ⟨s₁, -, s₂, -, s₃, o, hlog, -⟩ := finale_log (4 : Nat)
  exact ⟨hkeys, _, _, _, _, hlog,
    rfl, after_best (by decide) (by decide) rfl hkeys [] _ hlog rfl,
    rfl, after_best (by decide) (by decide) rfl hkeys [_, _] _ hlog rfl⟩

end Room
end Reversi
