import Reversi.Proofs.Engine.Endgame
import Reversi.Proofs.Room.Referee
import Reversi.Proofs.Room.Session

/-!
# Reversi.Proofs.Room.Endgame

The end of a game against the engine.

* `Board.outlook`: what a position is worth to White.
* `Referee.outlook_le`: placements of White that keep the value of the game, with any replies, do
  not lose any of it.
* `Room.after_endgame`: once the engine looks ahead to the end of the game, it plays perfectly.
-/

namespace Reversi

namespace Board

/-- The value of the game for White when `turn` is to move, or nobody. -/
def outlook (b : Board) : Option Side → Int
  | some side => b.gameValue .white side
  | none => b.finalValue .white

theorem Due.outlook_eq {b : Board} {side : Side} {turn passed : Option Side}
    (h : b.Due side turn passed) : b.outlook turn = b.gameValue .white side := by
  cases h with
  | plays => rfl
  | passes hno ho =>
    exact (gameValue_pass (hasLegalMove_eq_false_iff.2 hno) (hasLegalMove_iff_playable.2 ho)).symm
  | ended hno hno' =>
    exact (gameValue_over (hasLegalMove_eq_false_iff.2 hno) (hasLegalMove_eq_false_iff.2 hno')).symm

/-- If the search reaches the end of the game, White's placement keeps the value of the game. -/
def KeepsValue (depth : Nat) (b : Board) (s : Square) : Prop :=
  2 * b.empties ≤ depth → (b.place .white s).gameValue .white .black = b.gameValue .white .white

end Board

open Room (boardAfter)

theorem Referee.outlook_le {start b : Board} {log : List MoveRecord} {turn passed : Option Side}
    {depth : Nat} (h : Referee start log b turn passed)
    (hkeeps : ∀ before m after, log = before ++ m :: after → m.side = .white →
      (boardAfter start before).KeepsValue depth m.square)
    {before after : List MoveRecord} {m : MoveRecord} (hlog : log = before ++ m :: after)
    (hm : m.side = .white) (hdeep : 2 * (boardAfter start before).empties ≤ depth) :
    (boardAfter start before).gameValue .white .white ≤ b.outlook turn ∧
      b.empties ≤ (boardAfter start before).empties := by
  induction h generalizing after with
  | opening => simp at hlog
  | @placement log b c side s _ turn passed h hs hc hdue ih =>
    have hboard := h.board_eq
    have hlegal := Board.mem_legalMoves_iff_playable.2 hs
    obtain rfl := Board.Becomes.eq_place hs hc
    have hfill := Board.empties_place_of_legal hlegal
    have hlast := hkeeps log _ [] rfl
    rw [← hboard] at hlast
    rw [hdue.outlook_eq]
    rcases Room.concat_eq_append_cons hlog with ⟨rfl, rfl⟩ | ⟨after', hlog'⟩
    · rw [← hboard] at hdeep ⊢
      obtain rfl : side = .white := hm
      exact ⟨(hlast rfl hdeep).ge, by omega⟩
    · have hearlier : ∀ before m after, log = before ++ m :: after → m.side = .white →
          (boardAfter start before).KeepsValue depth m.square := by
        intro before m after hsplit
        exact hkeeps before m (after ++ [_]) (by rw [hsplit, List.append_assoc]; rfl)
      obtain ⟨hvalue, hempties⟩ := ih hearlier hlog'
      refine ⟨hvalue.trans ?_, by omega⟩
      cases side with
      | white => exact (hlast rfl (by omega)).ge
      | black =>
        have hreply : b.gameValue .white .black ≤ (b.place .black s).gameValue .white .white :=
          Board.le_gameValue_place hlegal
        exact hreply

namespace Board

theorem finale_won :
    ∀ s ∈ finale.legalMoves .white, 2 * (finale.answered s ⟨5, 3⟩).empties ≤ 4 ∧
      ∃ s' ∈ (finale.answered s ⟨5, 3⟩).legalMoves .white,
        let b := (finale.answered s ⟨5, 3⟩).place .white s'
        ∃ s'' ∈ b.legalMoves .white, (b.place .white s'').outcome = .won .white := by
  decide +kernel

theorem finale_forces {s : Square} (hs : s ∈ finale.legalMoves .white) :
    (finale.answered s ⟨5, 3⟩).Forces .white .white := by
  obtain ⟨-, s', hs', s'', hs'', hwon⟩ := finale_won s hs
  obtain ⟨hblack, hwhite, hover⟩ := finale_end s hs s' hs'
  have hend := isTerminal_iff.1 (hover s'' hs'')
  exact .choose hs' (.pass hblack hwhite (.choose hs'' (.won (hend _) (hend _) hwon)))

end Board

namespace Room

/-- If the engine is called on a board where its depth is at least twice the number of free squares,
the finished game is worth no less to White than perfect play from that board is, whatever was
played and searched before and whatever the human replies; and it is won if it can be won. -/
theorem after_endgame {id : Int} {start : Board} {D : Nat} {setup : Engine.Setup}
    {requests : List Request} {r : Room}
    (hD : 1 ≤ D) (hr : (empty id .engine start D setup).after requests = r)
    (hkeys : (Engine.fresh .white D setup).search.KeysApart (Foreseen start r.log D))
    (before after : List MoveRecord) {m : MoveRecord} (hlog : r.log = before ++ m :: after)
    (hm : m.side = .white) (hdeep : 2 * (boardAfter start before).empties ≤ D) {o : Outcome}
    (hover : r.phase = .finished o) :
    (boardAfter start before).gameValue .white .white ≤ r.board.finalValue .white ∧
      ((boardAfter start before).Forces .white .white → o = .won .white) := by
  have hkeeps : ∀ before m after, r.log = before ++ m :: after → m.side = .white →
      (boardAfter start before).KeepsValue D m.square := by
    let p := (Engine.fresh .white D setup).search
    refine replies_of_level p p.Ending (fun b s => b.KeepsValue D s) hr (fun hm h => h.mono hm) ?_
    intro b e c hcalled hopposing hc hkept
    have hsearch := hopposing.search_eq
    have hchoice := Engine.choose_keeps_value hc hopposing.depth hD (hsearch ▸ hkeys)
      (fun h => ⟨_, hcalled, hopposing.side ▸ h⟩) (hsearch ▸ hkept)
    rwa [hopposing.side, hsearch] at hchoice
  have hgame : Refereed start r := by
    rw [← hr]
    exact after_invariant (Refereed.empty id .engine start D setup) Refereed.step requests
  have hreplay := hgame.replay (by simp [hover])
  rw [hover] at hreplay
  obtain ⟨hvalue, -⟩ := hreplay.outlook_le hkeeps hlog hm hdeep
  refine ⟨hvalue, fun hwin => ?_⟩
  have hpos : 0 < r.board.finalValue .white := lt_of_lt_of_le hwin.gameValue_pos hvalue
  have hwon := Board.outcome_eq_iff.1 (Board.finalValue_pos_iff.1 hpos)
  exact (hgame.outcome o hover).unique hwon

/-- The engine looks ahead to the end of the game when it is called again, and wins. -/
theorem after_endgame_finale :
    (Engine.fresh .white (4 : Nat) (.ofWords .numbered)).search.KeysApart
        (Foreseen .finale (finale (4 : Nat)).log 4) ∧
      ∃ m₁ m₂ m₃ m₄, (finale (4 : Nat)).log = [m₁, m₂, m₃, m₄] ∧ m₃.side = .white ∧
        2 * (boardAfter .finale [m₁, m₂]).empties ≤ 4 ∧
        (boardAfter .finale [m₁, m₂]).Forces .white .white ∧
        (finale (4 : Nat)).phase = .finished (.won .white) ∧
        (boardAfter .finale [m₁, m₂]).gameValue .white .white ≤
          (finale (4 : Nat)).board.finalValue .white := by
  have hkeys := finale_keys 4
  obtain ⟨s₁, hs₁, s₂, -, s₃, o, hlog, hover⟩ := finale_log (4 : Nat)
  have hdeep : 2 * (Board.finale.answered s₁ ⟨5, 3⟩).empties ≤ 4 := (Board.finale_won s₁ hs₁).1
  have hwin : (Board.finale.answered s₁ ⟨5, 3⟩).Forces .white .white := Board.finale_forces hs₁
  obtain ⟨hvalue, hwon⟩ := after_endgame (by decide) rfl hkeys [_, _] _ hlog rfl hdeep hover
  rw [hwon hwin] at hover
  exact ⟨hkeys, _, _, _, _, hlog, rfl, hdeep, hwin, hover, hvalue⟩

end Room
end Reversi
