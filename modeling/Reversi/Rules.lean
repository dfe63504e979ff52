import Reversi.Board.Basic

/-!
# Reversi.Rules

Legal placements and what they turn over.

* `Board.run?`: the opposing discs at the head of a ray, when a disc of the mover closes them.
* `Board.flips`: all discs that a placement turns over, direction by direction and outward.
* `Board.legalMoves`: the squares where a side may place a disc, row by row.
* `Board.place`: the board after a legal placement; `Board.play?` checks first.
* `Board.flipsAt`, `Board.move`: the same for coordinates that need not be on the board.
* `Board.isTerminal`: neither side can move.
-/

namespace Reversi

/-- Someone tried to place a disc where it turns nothing over. -/
structure IllegalPlacement where
  side : Side
  target : Position
  deriving DecidableEq

namespace Board

/-- The run of opposing discs that starts a ray, if a disc of `side` follows it. -/
def run? (b : Board) (side : Side) : List Square → Option (List Square)
  | [] => none
  | s :: ray =>
    if b.get s = side.disc then some []
    else if b.get s = side.opponent.disc then (b.run? side ray).map (s :: ·)
    else none

def flips (b : Board) (side : Side) (s : Square) : List Square :=
  if b.get s = .empty then s.rays.flatMap fun ray => (b.run? side ray).getD [] else []

def flipsAt (b : Board) (side : Side) (p : Position) : List Square :=
  match p.square? with
  | none => []
  | some s => b.flips side s

def isLegal (b : Board) (side : Side) (s : Square) : Bool := !(b.flips side s).isEmpty

def legalMoves (b : Board) (side : Side) : List Square := Square.all.filter (b.isLegal side)

def hasLegalMove (b : Board) (side : Side) : Bool := Square.all.any (b.isLegal side)

/-- The board with a disc of `side` on every square of a list. -/
def fill (b : Board) (side : Side) (squares : List Square) : Board :=
  squares.foldl (fun b s => b.set s side.disc) b

def place (b : Board) (side : Side) (s : Square) : Board :=
  b.fill side (s :: b.flips side s)

def play? (b : Board) (side : Side) (s : Square) : Option Board :=
  if b.isLegal side s then some (b.place side s) else none

/-- The square played on and the board after it. -/
def move (b : Board) (side : Side) (p : Position) : Except IllegalPlacement (Square × Board) :=
  match p.square? with
  | none => .error ⟨side, p⟩
  | some s =>
    match b.play? side s with
    | none => .error ⟨side, p⟩
    | some next => .ok (s, next)

def isTerminal (b : Board) : Bool := !b.hasLegalMove .black && !b.hasLegalMove .white

/-! ## Legality -/

theorem isLegal_iff {b : Board} {side : Side} {s : Square} :
    b.isLegal side s = true ↔ b.flips side s ≠ [] := by
  simp [isLegal]

theorem get_of_isLegal {b : Board} {side : Side} {s : Square} (h : b.isLegal side s = true) :
    b.get s = .empty := by
  rw [isLegal_iff, flips] at h
  split at h
  · assumption
  · exact absurd rfl h

theorem mem_legalMoves {b : Board} {side : Side} {s : Square} :
    s ∈ b.legalMoves side ↔ b.isLegal side s = true := by
  rw [legalMoves, List.mem_filter]
  exact and_iff_right (Square.mem_all s)

theorem hasLegalMove_iff {b : Board} {side : Side} :
    b.hasLegalMove side = true ↔ ∃ s, b.isLegal side s = true := by
  rw [hasLegalMove, List.any_eq_true]
  exact ⟨fun ⟨s, _, h⟩ => ⟨s, h⟩, fun ⟨s, h⟩ => ⟨s, Square.mem_all s, h⟩⟩

theorem legalMoves_eq_nil_iff {b : Board} {side : Side} :
    b.legalMoves side = [] ↔ b.hasLegalMove side = false := by
  rw [← Bool.not_eq_true, hasLegalMove_iff, List.eq_nil_iff_forall_not_mem, not_exists]
  exact forall_congr' fun _ => not_congr mem_legalMoves

theorem play?_eq_some_iff {b next : Board} {side : Side} {s : Square} :
    b.play? side s = some next ↔ s ∈ b.legalMoves side ∧ next = b.place side s := by
  rw [mem_legalMoves, play?]
  split
  · rename_i h
    exact ⟨fun e => ⟨h, (Option.some.inj e).symm⟩, fun ⟨_, e⟩ => congrArg some e.symm⟩
  · rename_i h
    exact ⟨fun e => (nomatch e), fun ⟨hl, _⟩ => absurd hl h⟩

theorem move_position {b : Board} {side : Side} {s : Square} (h : s ∈ b.legalMoves side) :
    b.move side s.position = .ok (s, b.place side s) := by
  have hp : b.play? side s = some (b.place side s) := play?_eq_some_iff.2 ⟨h, rfl⟩
  rw [move, Square.square?_position]
  simp only [hp]

theorem move_of_not_legal {b : Board} {side : Side} {p : Position}
    (h : ∀ s ∈ b.legalMoves side, s.position ≠ p) : b.move side p = .error ⟨side, p⟩ := by
  rw [move]
  cases hp : p.square? with
  | none => rfl
  | some s =>
    have hs : b.isLegal side s = false := by
      rw [← Bool.not_eq_true, ← mem_legalMoves]
      exact fun hs => h s hs (Position.position_of_square? hp)
    simp [play?, hs]

end Board

end Reversi
