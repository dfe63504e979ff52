import Reversi.Proofs.Engine.Choice

/-!
# Reversi.Proofs.Engine.AnyTable

A choice with any table: entries of any depth, kind and value, under any keys, which propose any
placement, on the board or not.

* `weightAt_position`, `Board.meritAt_position`: the coordinates of a square are looked up without
  fault.
* `Engine.choose_noMove`, `choose_asked`, `choose_wrongSide`: the answers that need no search.
* `Engine.choose_answers`: the engine answers with a legal placement exactly if there is one, and no
  fault of a search reaches the caller.
-/

namespace Reversi

/-! ## Coordinates of squares -/

theorem SignedIndex.resolve_val {size : Nat} (i : Fin size) (hsize : size ≤ 9223372036854775808) :
    resolve size (i.val : Int) = .ok i := by
  have hi := i.isLt
  rw [resolve, if_neg (by omega), dif_pos (by omega)]
  rfl

theorem weightAt_position (s : Square) : weightAt s.position = .ok s.weight := by
  have hrow : SignedIndex.resolve 8 s.position.row = .ok s.row :=
    SignedIndex.resolve_val s.row (by decide)
  have hcol : SignedIndex.resolve 8 s.position.col = .ok s.col :=
    SignedIndex.resolve_val s.col (by decide)
  simp only [weightAt, hrow, hcol]

theorem Board.meritAt_position (b : Board) (side : Side) (s : Square) :
    b.meritAt side s.position = .ok (b.merit side s) := by
  rw [meritAt, weightAt_position, flipsAt, Square.square?_position]
  rfl

/-! ## Choices -/

namespace Engine

theorem choose_noMove {e : Engine} {b : Board} (h : b.legalMoves e.side = []) :
    e.choose b none = .error (.noMove e.side) := by
  simp [choose, h]

theorem choose_asked (e : Engine) (b : Board) : e.choose b (some e.side) = e.choose b none := rfl

theorem choose_wrongSide {e : Engine} {asked : Side} (b : Board) (h : asked ≠ e.side) :
    e.choose b (some asked) = .error (.wrongSide e.side asked) := by
  simp [choose, h]

/-- Whatever the table holds, the engine answers with a legal placement if there is one, and
otherwise that there is none; it refuses to play for the other side. The search that finds the
placement never fails: every placement that it tries at any position is legal there, and is found
under its coordinates. -/
theorem choose_answers (e : Engine) (b : Board) :
    ((∃ c, e.choose b none = .ok c ∧ c.square ∈ b.legalMoves e.side) ↔
      b.legalMoves e.side ≠ []) ∧
    (e.choose b none = .error (.noMove e.side) ↔ b.legalMoves e.side = []) ∧
    e.choose b (some e.side) = e.choose b none ∧
    e.choose b (some e.side.opponent) = .error (.wrongSide e.side e.side.opponent) ∧
    (∀ asked f, e.choose b asked ≠ .error (.search f)) ∧
    (∀ c t table, ∀ s ∈ e.search.tries c t table, s ∈ c.legalMoves t ∧
      c.meritAt t s.position = .ok (c.merit t s) ∧
      c.move t s.position = .ok (s, c.place t s)) := by
  have hanswer : b.legalMoves e.side ≠ [] →
      ∃ c, e.choose b none = .ok c ∧ c.square ∈ b.legalMoves e.side := by
    intro hmoves
    have hmove : b.hasLegalMove e.side = true := by
      rwa [Ne, Board.legalMoves_eq_nil_iff, Bool.not_eq_false] at hmoves
    obtain ⟨c, hc⟩ := choose_ok hmove
    exact ⟨c, hc, choose_legal hc⟩
  have hwrong : e.choose b (some e.side.opponent) =
      .error (.wrongSide e.side e.side.opponent) := choose_wrongSide b e.side.opponent_ne
  have hnone : ∀ f, e.choose b none ≠ .error (.search f) := by
    intro f hf
    by_cases hmoves : b.legalMoves e.side = []
    · rw [choose_noMove hmoves] at hf
      cases hf
    · obtain ⟨c, hc, -⟩ := hanswer hmoves
      rw [hc] at hf
      cases hf
  refine ⟨⟨?_, hanswer⟩, ⟨fun hno => ?_, choose_noMove⟩, choose_asked e b, hwrong, ?_, ?_⟩
  · rintro ⟨c, -, hlegal⟩ hmoves
    rw [hmoves] at hlegal
    exact List.not_mem_nil hlegal
  · by_contra hmoves
    obtain ⟨c, hc, -⟩ := hanswer hmoves
    rw [hc] at hno
    cases hno
  · intro asked f hf
    cases asked with
    | none => exact hnone f hf
    | some asked =>
      rcases e.side.eq_or_eq_opponent asked with rfl | rfl
      · exact hnone f hf
      · rw [hwrong] at hf
        cases hf
  · intro c t table s hs
    have hlegal : s ∈ c.legalMoves t :=
      (Search.tries_perm e.search_orderly c t table).mem_iff.1 hs
    exact ⟨hlegal, c.meritAt_position t s, Board.move_position hlegal⟩

end Engine
end Reversi
