import Reversi.Proofs.Flips
import Reversi.Proofs.Legality

/-!
# Reversi.Proofs.Symmetry

The rules know no preferred direction and no preferred colour.

* `Symmetry`: the four rotations and the four reflections of the board, as maps of coordinates
  (`position`), of squares (`square`), of directions (`direction`) and of boards (`board`).
* `Symmetry.bracketed_board_iff`: a bracketed run is mapped to a bracketed run. All that the rules
  say follows from it: what a placement turns, where one is legal, the board after it, the outcome.
* `Board.recoloured`: every disc in the other colour. The scan of a ray is the same for the other
  side, step by step, so even the order of the turned discs is.
* `Board.rules_symmetric`: both, for all functions of the rules.
-/

namespace Reversi

namespace Direction

/-- The direction after a quarter turn of the board, clockwise. -/
def turned : Direction → Direction
  | northWest => northEast
  | north => east
  | northEast => southEast
  | west => north
  | east => south
  | southWest => northWest
  | south => west
  | southEast => southWest

/-- The direction after the rows of the board were reversed. -/
def upended : Direction → Direction
  | northWest => southWest
  | north => south
  | northEast => southEast
  | west => west
  | east => east
  | southWest => northWest
  | south => north
  | southEast => northEast

@[simp] theorem turned_down (d : Direction) : d.turned.down = d.right := by
  cases d <;> rfl

@[simp] theorem turned_right (d : Direction) : d.turned.right = -d.down := by
  cases d <;> rfl

@[simp] theorem upended_down (d : Direction) : d.upended.down = -d.down := by
  cases d <;> rfl

@[simp] theorem upended_right (d : Direction) : d.upended.right = d.right := by
  cases d <;> rfl

end Direction

/-! ## Rotations and reflections -/

inductive Symmetry where
  | identity
  | quarterTurn
  | halfTurn
  | threeQuarterTurn
  | upsideDown
  | mirrored
  | transposed
  | antitransposed
  deriving DecidableEq

namespace Symmetry

/-- Where a place goes; rows and columns are counted from 0 to 7. -/
def position (σ : Symmetry) (p : Position) : Position :=
  match σ with
  | identity => p
  | quarterTurn => ⟨p.col, 7 - p.row⟩
  | halfTurn => ⟨7 - p.row, 7 - p.col⟩
  | threeQuarterTurn => ⟨7 - p.col, p.row⟩
  | upsideDown => ⟨7 - p.row, p.col⟩
  | mirrored => ⟨p.row, 7 - p.col⟩
  | transposed => ⟨p.col, p.row⟩
  | antitransposed => ⟨7 - p.col, 7 - p.row⟩

def square (σ : Symmetry) (s : Square) : Square :=
  match σ with
  | identity => s
  | quarterTurn => ⟨s.col, s.row.rev⟩
  | halfTurn => ⟨s.row.rev, s.col.rev⟩
  | threeQuarterTurn => ⟨s.col.rev, s.row⟩
  | upsideDown => ⟨s.row.rev, s.col⟩
  | mirrored => ⟨s.row, s.col.rev⟩
  | transposed => ⟨s.col, s.row⟩
  | antitransposed => ⟨s.col.rev, s.row.rev⟩

/-- A reflection is the rows reversed, and turned. -/
def direction (σ : Symmetry) (d : Direction) : Direction :=
  match σ with
  | identity => d
  | quarterTurn => d.turned
  | halfTurn => d.turned.turned
  | threeQuarterTurn => d.turned.turned.turned
  | upsideDown => d.upended
  | transposed => d.upended.turned
  | mirrored => d.upended.turned.turned
  | antitransposed => d.upended.turned.turned.turned

/-- Only two of the eight are not their own inverse. -/
def inverse : Symmetry → Symmetry
  | quarterTurn => threeQuarterTurn
  | threeQuarterTurn => quarterTurn
  | σ => σ

/-- The board with the content of every square on the square where it goes. -/
def board (σ : Symmetry) (b : Board) : Board :=
  ⟨Vector.ofFn fun i => b.get (σ.inverse.square (Square.ofIndex i))⟩

variable {σ : Symmetry} {b : Board} {side : Side} {s t : Square} {d : Direction} {k : Nat}
  {c : Cell}

@[simp] theorem square_inverse (σ : Symmetry) (s : Square) :
    σ.square (σ.inverse.square s) = s := by
  cases σ <;> simp [inverse, square]

@[simp] theorem inverse_square (σ : Symmetry) (s : Square) :
    σ.inverse.square (σ.square s) = s := by
  cases σ <;> simp [inverse, square]

theorem square_injective (σ : Symmetry) : Function.Injective σ.square :=
  Function.LeftInverse.injective σ.inverse_square

@[simp] theorem square_inj : σ.square s = σ.square t ↔ s = t := σ.square_injective.eq_iff

theorem position_square (σ : Symmetry) (s : Square) :
    (σ.square s).position = σ.position s.position := by
  have hr := s.row.isLt
  have hc := s.col.isLt
  cases σ <;>
    simp only [square, position, Square.position, Fin.val_rev, Position.mk.injEq, true_and,
      and_true] <;>
    omega

theorem square?_position (σ : Symmetry) (p : Position) :
    (σ.position p).square? = p.square?.map σ.square := by
  cases hp : p.square? with
  | none =>
    rw [Position.square?_eq_none_iff] at hp
    rw [Option.map_none, Position.square?_eq_none_iff]
    cases σ <;> simp only [position] <;> omega
  | some s =>
    rw [← Position.position_of_square? hp, ← position_square, Square.square?_position,
      Option.map_some]

/-- Lines of squares are mapped to lines of squares. -/
theorem away_square (σ : Symmetry) (s : Square) (d : Direction) (i : Nat) :
    (σ.square s).away (σ.direction d) i = σ.position (s.away d i) := by
  have hs := congrArg Position.row (σ.position_square s)
  have hs' := congrArg Position.col (σ.position_square s)
  simp only [Square.position] at hs hs'
  simp only [Square.away, hs, hs']
  cases σ <;>
    simp only [position, direction, Direction.turned_down, Direction.turned_right,
      Direction.upended_down, Direction.upended_right, Int.mul_neg, Int.neg_neg,
      Position.mk.injEq, true_and, and_true] <;>
    omega

@[simp] theorem get_board (σ : Symmetry) (b : Board) (s : Square) :
    (σ.board b).get (σ.square s) = b.get s := by
  simp [Board.get, board, Square.get_eq_getElem]

@[simp] theorem inverse_board (σ : Symmetry) (b : Board) : σ.inverse.board (σ.board b) = b := by
  refine Board.eq_of_get fun s => ?_
  have hs : σ.inverse.square (σ.square s) = s := σ.inverse_square s
  rw [← hs, get_board, get_board, hs]

/-! ## Runs, flips and legal placements -/

theorem holds_board_iff {p : Position} : (σ.board b).Holds (σ.position p) c ↔ b.Holds p c := by
  rw [Board.holds_iff, Board.holds_iff, square?_position]
  simp

theorem bracketed_board_iff :
    (σ.board b).Bracketed side (σ.square s) (σ.direction d) k ↔ b.Bracketed side s d k := by
  constructor
  · rintro ⟨hrun, hclosed⟩
    simp only [away_square, holds_board_iff] at hrun hclosed
    exact ⟨hrun, hclosed⟩
  · rintro ⟨hrun, hclosed⟩
    refine ⟨fun j h1 hj => ?_, ?_⟩
    · rw [away_square, holds_board_iff]
      exact hrun j h1 hj
    · rw [away_square, holds_board_iff]
      exact hclosed

theorem turns_board (σ : Symmetry) (h : b.Turns side s t) :
    (σ.board b).Turns side (σ.square s) (σ.square t) := by
  obtain ⟨d, k, i, hb, h1, hk, ht⟩ := h
  exact ⟨σ.direction d, k, i, bracketed_board_iff.2 hb, h1, hk, by
    rw [position_square, ht, away_square]⟩

/-- The way back is the inverse symmetry. -/
theorem turns_board_iff :
    (σ.board b).Turns side (σ.square s) (σ.square t) ↔ b.Turns side s t := by
  refine ⟨fun h => ?_, turns_board σ⟩
  have hback := turns_board σ.inverse h
  rwa [inverse_board, inverse_square, inverse_square] at hback

theorem mem_flips_board_iff :
    σ.square t ∈ (σ.board b).flips side (σ.square s) ↔ t ∈ b.flips side s := by
  rw [Board.mem_flips_iff, Board.mem_flips_iff, get_board, turns_board_iff]

/-- Two lists without repetition, of which one has the images of the other's squares. -/
theorem perm_map_square {l l' : List Square} (hl : l.Nodup) (hl' : l'.Nodup)
    (h : ∀ s, σ.square s ∈ l' ↔ s ∈ l) : (l.map σ.square).Perm l' := by
  refine (List.perm_ext_iff_of_nodup (hl.map σ.square_injective) hl').2 fun s => ?_
  rw [← σ.square_inverse s, List.mem_map_of_injective σ.square_injective, h]

theorem flips_board (σ : Symmetry) (b : Board) (side : Side) (s : Square) :
    ((b.flips side s).map σ.square).Perm ((σ.board b).flips side (σ.square s)) :=
  perm_map_square (Board.nodup_flips b side s) (Board.nodup_flips _ _ _)
    fun _ => mem_flips_board_iff

theorem isLegal_board (σ : Symmetry) (b : Board) (side : Side) (s : Square) :
    (σ.board b).isLegal side (σ.square s) = b.isLegal side s := by
  rw [Board.isLegal, Board.isLegal, ← (flips_board σ b side s).isEmpty_eq, List.isEmpty_map]

theorem mem_legalMoves_board_iff :
    σ.square s ∈ (σ.board b).legalMoves side ↔ s ∈ b.legalMoves side := by
  rw [Board.mem_legalMoves, Board.mem_legalMoves, isLegal_board]

theorem legalMoves_board (σ : Symmetry) (b : Board) (side : Side) :
    ((b.legalMoves side).map σ.square).Perm ((σ.board b).legalMoves side) :=
  perm_map_square (Square.nodup_all.filter _) (Square.nodup_all.filter _)
    fun _ => mem_legalMoves_board_iff

theorem hasLegalMove_board (σ : Symmetry) (b : Board) (side : Side) :
    (σ.board b).hasLegalMove side = b.hasLegalMove side := by
  rw [Bool.eq_iff_iff, Board.hasLegalMove_iff, Board.hasLegalMove_iff]
  constructor
  · rintro ⟨s, hs⟩
    rw [← σ.square_inverse s, isLegal_board] at hs
    exact ⟨_, hs⟩
  · rintro ⟨s, hs⟩
    exact ⟨σ.square s, by rwa [isLegal_board]⟩

theorem isTerminal_board (σ : Symmetry) (b : Board) : (σ.board b).isTerminal = b.isTerminal := by
  simp only [Board.isTerminal, hasLegalMove_board]

/-! ## Placements and outcome -/

theorem place_board (σ : Symmetry) (b : Board) (side : Side) (s : Square) :
    (σ.board b).place side (σ.square s) = σ.board (b.place side s) := by
  refine Board.eq_of_get fun t => ?_
  rw [← σ.square_inverse t, get_board, Board.get_place, Board.get_place, get_board]
  simp only [square_inj, mem_flips_board_iff]

theorem flipsAt_board (σ : Symmetry) (b : Board) (side : Side) (p : Position) :
    ((b.flipsAt side p).map σ.square).Perm ((σ.board b).flipsAt side (σ.position p)) := by
  unfold Board.flipsAt
  rw [square?_position]
  cases p.square? with
  | none => exact .refl _
  | some s => exact flips_board σ b side s

theorem move_board (σ : Symmetry) (b : Board) (side : Side) (p : Position) :
    (σ.board b).move side (σ.position p) =
      match b.move side p with
      | .ok (s, next) => .ok (σ.square s, σ.board next)
      | .error _ => .error ⟨side, σ.position p⟩ := by
  unfold Board.move Board.play?
  rw [square?_position]
  cases p.square? with
  | none => rfl
  | some s =>
    simp only [Option.map_some, isLegal_board, place_board]
    cases b.isLegal side s <;> rfl

theorem count_board (σ : Symmetry) (b : Board) (c : Cell) : (σ.board b).count c = b.count c := by
  rw [Board.count_eq_card, Board.count_eq_card]
  refine (Finset.card_equiv ⟨σ.square, σ.inverse.square, σ.inverse_square, σ.square_inverse⟩
    fun s => ?_).symm
  simp only [Finset.mem_filter_univ, Equiv.coe_fn_mk, get_board]

theorem outcome_board (σ : Symmetry) (b : Board) : (σ.board b).outcome = b.outcome := by
  simp only [Board.outcome, Board.score, count_board]

end Symmetry

/-! ## The other colour -/

def Cell.recoloured : Cell → Cell
  | empty => empty
  | black => white
  | white => black

theorem Cell.recoloured_eq_iff {c c' : Cell} : c.recoloured = c' ↔ c = c'.recoloured := by
  cases c <;> cases c' <;> decide

@[simp] theorem Side.recoloured_disc (side : Side) : side.disc.recoloured = side.opponent.disc := by
  cases side <;> rfl

/-- The same result for the other side. -/
def Outcome.recoloured : Outcome → Outcome
  | won side => won side.opponent
  | draw => draw

namespace Board

variable {b : Board} {side : Side} {s : Square}

/-- The board with every disc in the other colour. -/
def recoloured (b : Board) : Board := ⟨b.cells.map Cell.recoloured⟩

@[simp] theorem get_recoloured (b : Board) (s : Square) :
    b.recoloured.get s = (b.get s).recoloured := by
  simp [get, recoloured, Square.get_eq_getElem]

/-- The scan of a ray takes the same turn at every disc. -/
theorem run?_recoloured (b : Board) (side : Side) (ray : List Square) :
    b.recoloured.run? side.opponent ray = b.run? side ray := by
  induction ray with
  | nil => rfl
  | cons s ray ih =>
    simp only [run?, get_recoloured, Cell.recoloured_eq_iff, Side.recoloured_disc,
      Side.opponent_opponent, ih]

theorem flips_recoloured (b : Board) (side : Side) (s : Square) :
    b.recoloured.flips side.opponent s = b.flips side s := by
  have hfree : b.recoloured.get s = .empty ↔ b.get s = .empty := by
    rw [get_recoloured, Cell.recoloured_eq_iff]
    rfl
  simp only [flips, hfree, run?_recoloured]

theorem isLegal_recoloured (b : Board) (side : Side) (s : Square) :
    b.recoloured.isLegal side.opponent s = b.isLegal side s := by
  rw [isLegal, isLegal, flips_recoloured]

theorem legalMoves_recoloured (b : Board) (side : Side) :
    b.recoloured.legalMoves side.opponent = b.legalMoves side :=
  List.filter_congr fun s _ => isLegal_recoloured b side s

theorem hasLegalMove_recoloured (b : Board) (side : Side) :
    b.recoloured.hasLegalMove side.opponent = b.hasLegalMove side := by
  rw [Bool.eq_iff_iff, hasLegalMove_iff, hasLegalMove_iff]
  simp only [isLegal_recoloured]

theorem isTerminal_recoloured (b : Board) : b.recoloured.isTerminal = b.isTerminal := by
  have hblack : b.recoloured.hasLegalMove .black = b.hasLegalMove .white :=
    hasLegalMove_recoloured b .white
  have hwhite : b.recoloured.hasLegalMove .white = b.hasLegalMove .black :=
    hasLegalMove_recoloured b .black
  rw [isTerminal, isTerminal, hblack, hwhite, Bool.and_comm]

theorem place_recoloured (b : Board) (side : Side) (s : Square) :
    b.recoloured.place side.opponent s = (b.place side s).recoloured := by
  refine eq_of_get fun t => ?_
  rw [get_recoloured, get_place, get_place, flips_recoloured, get_recoloured]
  split
  · exact (Side.recoloured_disc side).symm
  · rfl

theorem flipsAt_recoloured (b : Board) (side : Side) (p : Position) :
    b.recoloured.flipsAt side.opponent p = b.flipsAt side p := by
  unfold flipsAt
  cases p.square? with
  | none => rfl
  | some s => exact flips_recoloured b side s

theorem move_recoloured (b : Board) (side : Side) (p : Position) :
    b.recoloured.move side.opponent p =
      match b.move side p with
      | .ok (s, next) => .ok (s, next.recoloured)
      | .error _ => .error ⟨side.opponent, p⟩ := by
  unfold move play?
  cases p.square? with
  | none => rfl
  | some s =>
    simp only [isLegal_recoloured, place_recoloured]
    cases b.isLegal side s <;> rfl

theorem count_recoloured (b : Board) (c : Cell) : b.recoloured.count c = b.count c.recoloured := by
  simp only [count_eq_card, get_recoloured, Cell.recoloured_eq_iff]

theorem outcome_recoloured (b : Board) : b.recoloured.outcome = b.outcome.recoloured := by
  rw [outcome_eq_iff]
  have hfits := b.outcome_fits
  cases hb : b.outcome with
  | won side =>
    rw [hb] at hfits
    simpa [Outcome.recoloured, Outcome.Fits, count_recoloured] using hfits
  | draw =>
    rw [hb] at hfits
    simpa [Outcome.recoloured, Outcome.Fits, count_recoloured, Side.opponent] using hfits.symm

/-! ## All rules -/

/-- A rotation or reflection of the board rotates or reflects what a placement turns, where
placements are legal and what they lead to; it changes neither whether the game is over nor who has
won. With all discs in the other colour, a placement of the other side turns the same discs in the
same order and leads to the same board in the other colour; the game is over at the same time, and
the winner is the other side. -/
theorem rules_symmetric (b : Board) (side : Side) :
    (∀ σ : Symmetry,
      (∀ p,
        ((b.flipsAt side p).map σ.square).Perm ((σ.board b).flipsAt side (σ.position p)) ∧
        (σ.board b).move side (σ.position p) =
          match b.move side p with
          | .ok (s, next) => .ok (σ.square s, σ.board next)
          | .error _ => .error ⟨side, σ.position p⟩) ∧
      ((b.legalMoves side).map σ.square).Perm ((σ.board b).legalMoves side) ∧
      (σ.board b).hasLegalMove side = b.hasLegalMove side ∧
      (σ.board b).isTerminal = b.isTerminal ∧ (σ.board b).outcome = b.outcome) ∧
    (∀ p,
      b.recoloured.flipsAt side.opponent p = b.flipsAt side p ∧
      b.recoloured.move side.opponent p =
        match b.move side p with
        | .ok (s, next) => .ok (s, next.recoloured)
        | .error _ => .error ⟨side.opponent, p⟩) ∧
    b.recoloured.legalMoves side.opponent = b.legalMoves side ∧
    b.recoloured.hasLegalMove side.opponent = b.hasLegalMove side ∧
    b.recoloured.isTerminal = b.isTerminal ∧ b.recoloured.outcome = b.outcome.recoloured := by
  refine ⟨fun σ => ⟨fun p => ⟨σ.flipsAt_board b side p, σ.move_board b side p⟩, ?_⟩,
    fun p => ⟨flipsAt_recoloured b side p, move_recoloured b side p⟩, ?_⟩
  · exact ⟨σ.legalMoves_board b side, σ.hasLegalMove_board b side, σ.isTerminal_board b,
      σ.outcome_board b⟩
  · exact ⟨legalMoves_recoloured b side, hasLegalMove_recoloured b side, isTerminal_recoloured b,
      outcome_recoloured b⟩

end Board
end Reversi
