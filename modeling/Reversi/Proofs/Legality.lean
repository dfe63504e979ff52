import Reversi.Proofs.Bracket

/-!
# Reversi.Proofs.Legality

All functions that ask whether a placement is legal give the same answer, that of the rule.

* `Board.flipsAt_ne_nil_iff`, `Board.move_eq_ok`: coordinates on the board or not.
* `Board.not_playable_of_count`: without a disc of one side there is nothing to bracket.
* `Board.move_agrees`: the functions side by side.
-/

namespace Reversi
namespace Board

variable {b : Board} {side : Side} {s : Square} {p : Position}

theorem flipsAt_ne_nil_iff :
    b.flipsAt side p ≠ [] ↔ ∃ s ∈ b.legalMoves side, s.position = p := by
  unfold flipsAt
  constructor
  · intro h
    cases hp : p.square? with
    | none => simp [hp] at h
    | some s =>
      simp only [hp] at h
      exact ⟨s, mem_legalMoves.2 (isLegal_iff.2 h), Position.position_of_square? hp⟩
  · rintro ⟨s, hs, rfl⟩
    rw [Square.square?_position]
    exact isLegal_iff.1 (mem_legalMoves.1 hs)

theorem move_of_flipsAt_eq_nil (h : b.flipsAt side p = []) : b.move side p = .error ⟨side, p⟩ :=
  move_of_not_legal fun s hs hp => flipsAt_ne_nil_iff.2 ⟨s, hs, hp⟩ h

theorem move_eq_ok {result : Square × Board} (h : b.move side p = .ok result) :
    ∃ s ∈ b.legalMoves side, s.position = p ∧ result = (s, b.place side s) := by
  have hflips : b.flipsAt side p ≠ [] := by
    intro hnil
    rw [move_of_flipsAt_eq_nil hnil] at h
    cases h
  obtain ⟨s, hs, rfl⟩ := flipsAt_ne_nil_iff.1 hflips
  rw [move_position hs] at h
  cases h
  exact ⟨s, hs, rfl, rfl⟩

theorem move_eq_ok_iff :
    (∃ result, b.move side p = .ok result) ↔ ∃ s ∈ b.legalMoves side, s.position = p := by
  constructor
  · rintro ⟨result, h⟩
    obtain ⟨s, hs, hp, -⟩ := move_eq_ok h
    exact ⟨s, hs, hp⟩
  · rintro ⟨s, hs, rfl⟩
    exact ⟨_, move_position hs⟩

/-! ## The end of the game -/

theorem isTerminal_of_not_playable (h : ∀ side s, ¬ b.Playable side s) : b.isTerminal = true :=
  isTerminal_iff.2 fun side => hasLegalMove_eq_false_iff.2 fun ⟨s, hs⟩ => h side s hs

theorem get_ne_of_count {c : Cell} (h : b.count c = 0) (s : Square) : b.get s ≠ c := by
  rw [count, toList_eq_map, List.count_eq_zero] at h
  intro hs
  exact h (List.mem_map.2 ⟨s, Square.mem_all s, hs⟩)

/-- A placement needs a disc to turn and a disc to close the run. -/
theorem not_playable_of_count {owner : Side} (h : b.count owner.disc = 0) :
    ¬ b.Playable side s := by
  rintro ⟨-, t, d, k, i, hbracket, hi, hik, -⟩
  rcases side.eq_or_eq_opponent owner with rfl | rfl
  · obtain ⟨x, -, hx⟩ := hbracket.closed
    exact get_ne_of_count h x hx
  · obtain ⟨x, -, hx⟩ := hbracket.run i hi hik
    exact get_ne_of_count h x hx

/-- Whether a placement at any two coordinates is accepted, whether it turns something, whether it
is listed as legal and whether the rule allows it, is one question; what is not accepted is refused
with the coordinates that were asked for. A side can move if some placement is listed. The game is
over if no placement by either side is accepted. So it is on a board on which one side has no disc,
or which has no free square. -/
theorem move_agrees (b : Board) :
    (∀ side p,
      ((∃ result, b.move side p = .ok result) ↔ b.flipsAt side p ≠ []) ∧
      (b.flipsAt side p ≠ [] ↔ p ∈ (b.legalMoves side).map Square.position) ∧
      (b.flipsAt side p ≠ [] ↔ ∃ s, s.position = p ∧ b.Playable side s) ∧
      (b.flipsAt side p = [] → b.move side p = .error ⟨side, p⟩)) ∧
    (∀ side, b.hasLegalMove side = true ↔ b.legalMoves side ≠ []) ∧
    (b.isTerminal = true ↔ ∀ side p, ¬ ∃ result, b.move side p = .ok result) ∧
    (∀ owner : Side, b.count owner.disc = 0 → b.isTerminal = true) ∧
    (b.isFull = true → b.isTerminal = true) := by
  have hoffered : ∀ side, b.hasLegalMove side = true ↔ b.legalMoves side ≠ [] := by
    intro side
    rw [Ne, legalMoves_eq_nil_iff, Bool.not_eq_false]
  refine ⟨fun side p => ⟨?_, ?_, ?_, move_of_flipsAt_eq_nil⟩, hoffered, ?_, ?_, ?_⟩
  · rw [move_eq_ok_iff, flipsAt_ne_nil_iff]
  · rw [flipsAt_ne_nil_iff, List.mem_map]
  · rw [flipsAt_ne_nil_iff]
    exact exists_congr fun s =>
      and_comm.trans (and_congr_right fun _ => mem_legalMoves_iff_playable)
  · rw [isTerminal_iff]
    constructor
    · rintro h side p hok
      obtain ⟨s, hs, -⟩ := move_eq_ok_iff.1 hok
      have := hasLegalMove_of_mem hs
      rw [h side] at this
      cases this
    · intro h side
      rw [hasLegalMove_eq_false_iff]
      rintro ⟨s, hs⟩
      exact h side s.position (move_eq_ok_iff.2 ⟨s, mem_legalMoves_iff_playable.2 hs, rfl⟩)
  · intro owner h
    exact isTerminal_of_not_playable fun side s => not_playable_of_count h
  · intro hfull
    have hnone : b.count .empty = 0 := beq_iff_eq.1 hfull
    exact isTerminal_of_not_playable fun side s hs => get_ne_of_count hnone s hs.1

end Board
end Reversi
