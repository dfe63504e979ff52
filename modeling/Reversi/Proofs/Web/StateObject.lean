import Reversi.Proofs.Diagram
import Reversi.Web.Response

/-!
# Reversi.Proofs.Web.StateObject

The state object as clients read it: plain numbers and words.

* `Grid`: the board as rows of numbers; `Grid.Playable` is the rule of the game on it.
* `Grid.playable_iff`: on the grid of a board it is the rule on the board.
* `Grid.count_grid`, `Square.all_ordered`: what is counted and how squares are ordered.
* `StateObject.json`, `Snapshot.object`: what is sent of a snapshot.
-/

namespace Reversi

/-! ## Boards as rows of numbers -/

abbrev Grid := List (List Nat)

namespace Grid

/-- What stands at a place that need not be on the grid. -/
def cell? (g : Grid) (p : Position) : Option Nat :=
  if 0 ≤ p.row ∧ 0 ≤ p.col then g[p.row.toNat]?.bind fun row => row[p.col.toNat]? else none

/-- From `p` the `k` nearest places in direction `d` hold the other side's number and the next one
that of `side`. -/
structure Brackets (g : Grid) (side : Side) (p : Position) (d : Direction) (k : Nat) : Prop where
  run : ∀ j : Nat, 1 ≤ j → j ≤ k →
    g.cell? ⟨p.row + j * d.down, p.col + j * d.right⟩ = some side.opponent.code
  closed : g.cell? ⟨p.row + (k + 1 : Nat) * d.down, p.col + (k + 1 : Nat) * d.right⟩ =
    some side.code

/-- The place is free and `side` brackets a run of at least one disc from there. -/
def Playable (g : Grid) (side : Side) (p : Position) : Prop :=
  g.cell? p = some 0 ∧ ∃ d k, 1 ≤ k ∧ g.Brackets side p d k

end Grid

def Board.grid (b : Board) : Grid := b.rows.map fun row => row.map Cell.code

theorem Cell.code_injective : Function.Injective Cell.code := by
  intro c c' h
  cases c <;> cases c' <;> first | rfl | cases h

theorem Side.code_disc (side : Side) : side.disc.code = side.code := by
  cases side <;> rfl

namespace Grid

variable {b : Board} {side : Side} {s : Square} {p : Position}

theorem length_grid (b : Board) : b.grid.length = 8 := by
  simp [Board.grid, Board.rows]

theorem row_of_mem_grid {row : List Nat} (h : row ∈ b.grid) :
    row.length = 8 ∧ ∀ n ∈ row, n ≤ 2 := by
  rw [Board.grid, List.mem_map] at h
  obtain ⟨cells, hcells, rfl⟩ := h
  rw [Board.rows, List.mem_map] at hcells
  obtain ⟨r, -, rfl⟩ := hcells
  refine ⟨by simp, fun n hn => ?_⟩
  obtain ⟨c, -, rfl⟩ := List.mem_map.1 hn
  cases c <;> decide

/-- The grid shows the board and nothing beyond it. -/
theorem cell?_grid (b : Board) (p : Position) :
    b.grid.cell? p = p.square?.map fun s => (b.get s).code := by
  rw [cell?, Position.square?]
  by_cases hp : 0 ≤ p.row ∧ p.row < 8 ∧ 0 ≤ p.col ∧ p.col < 8
  · have hrow : p.row.toNat < 8 := by omega
    have hcol : p.col.toNat < 8 := by omega
    rw [dif_pos hp, if_pos ⟨hp.1, hp.2.2.1⟩]
    simp [Board.grid, Board.rows, hrow, hcol]
  · rw [dif_neg hp, Option.map_none]
    split
    · rename_i hpos
      by_cases hrow : p.row.toNat < 8
      · have hcol : ¬ p.col.toNat < 8 := by omega
        simp [Board.grid, Board.rows, hrow, hcol]
      · simp [Board.grid, Board.rows, hrow]
    · rfl

theorem cell?_grid_eq_some_iff {c : Cell} : b.grid.cell? p = some c.code ↔ b.Holds p c := by
  rw [cell?_grid, Option.map_eq_some_iff, Board.holds_iff]
  exact exists_congr fun s => and_congr_right fun _ => Cell.code_injective.eq_iff

theorem brackets_iff {d : Direction} {k : Nat} :
    b.grid.Brackets side s.position d k ↔ b.Bracketed side s d k := by
  constructor
  · intro h
    refine ⟨fun j h1 hk => ?_, ?_⟩
    · have hcell := h.run j h1 hk
      rw [← Side.code_disc] at hcell
      exact cell?_grid_eq_some_iff.1 hcell
    · have hcell := h.closed
      rw [← Side.code_disc] at hcell
      exact cell?_grid_eq_some_iff.1 hcell
  · intro h
    refine ⟨fun j h1 hk => ?_, ?_⟩
    · rw [← Side.code_disc]
      exact cell?_grid_eq_some_iff.2 (h.run j h1 hk)
    · rw [← Side.code_disc]
      exact cell?_grid_eq_some_iff.2 h.closed

theorem playable_iff : b.grid.Playable side p ↔ ∃ s, s.position = p ∧ b.Playable side s := by
  constructor
  · rintro ⟨hfree, d, k, hk, hbrackets⟩
    obtain ⟨s, rfl, hs⟩ := cell?_grid_eq_some_iff (c := .empty).1 hfree
    have hb := brackets_iff.1 hbrackets
    obtain ⟨t, ht, -⟩ := hb.run 1 (Nat.le_refl 1) hk
    exact ⟨s, rfl, hs, t, d, k, 1, hb, Nat.le_refl 1, hk, ht⟩
  · rintro ⟨s, rfl, hs, t, d, k, i, hb, hi, hik, -⟩
    refine ⟨cell?_grid_eq_some_iff (c := .empty).2 ⟨s, rfl, hs⟩, d, k, by omega, ?_⟩
    exact brackets_iff.2 hb

theorem exists_playable_iff :
    (∃ p, b.grid.Playable side p) ↔ ∃ s, b.Playable side s := by
  constructor
  · rintro ⟨p, hp⟩
    obtain ⟨s, -, hs⟩ := playable_iff.1 hp
    exact ⟨s, hs⟩
  · rintro ⟨s, hs⟩
    exact ⟨s.position, playable_iff.2 ⟨s, rfl, hs⟩⟩

/-! ## Counting -/

theorem count_grid (b : Board) (c : Cell) : b.grid.flatten.count c.code = b.count c := by
  rw [Board.grid, ← List.map_flatten, Board.flatten_rows,
    List.count_map_of_injective _ _ Cell.code_injective, Board.count]

end Grid

/-- Squares are listed row by row. -/
theorem Square.all_ordered :
    Square.all.Pairwise fun s t => s.row < t.row ∨ (s.row = t.row ∧ s.col < t.col) := by
  refine (List.pairwise_lt_finRange 64).map _ fun i j hij => ?_
  simp only [ofIndex, Fin.lt_def, Fin.ext_iff] at hij ⊢
  omega

/-! ## The object -/

/-- A placement as it is sent. -/
structure PlacementObject where
  player : Nat
  row : Nat
  col : Nat
  flipped : Int

structure StateObject where
  room : Int
  mode : String
  board : Grid
  status : String
  turn : Nat
  note : Option String
  black : Nat
  white : Nat
  seats : List String
  legalMoves : List (Nat × Nat)
  moveCount : Nat
  lastMove : Option PlacementObject

def PlacementObject.json (m : PlacementObject) : Json :=
  .obj [("player", .nat m.player), ("r", .nat m.row), ("c", .nat m.col),
    ("flipped", .int m.flipped)]

def StateObject.json (o : StateObject) : Json :=
  .obj [
    ("room_id", .int o.room),
    ("mode", .str o.mode),
    ("board", .arr (o.board.map fun row => .arr (row.map .nat))),
    ("status", .str o.status),
    ("turn", .nat o.turn),
    ("note", .ofOption .str o.note),
    ("scores", .obj [("black", .nat o.black), ("white", .nat o.white)]),
    ("seats", .arr (o.seats.map .str)),
    ("legal_moves", .arr (o.legalMoves.map fun cell => .arr [.nat cell.1, .nat cell.2])),
    ("move_count", .nat o.moveCount),
    ("last_move", .ofOption PlacementObject.json o.lastMove)]

def MoveRecord.object (m : MoveRecord) : PlacementObject where
  player := m.side.code
  row := m.square.row
  col := m.square.col
  flipped := m.flipped

def Snapshot.object (v : Snapshot) : StateObject where
  room := v.room
  mode := v.mode.word
  board := v.board.grid
  status := v.status.word
  turn := v.turn.elim 0 Side.code
  note := v.note
  black := v.board.count .black
  white := v.board.count .white
  seats := v.seats.map Side.name
  legalMoves := v.legalMoves.map fun s => (s.row.val, s.col.val)
  moveCount := v.moveCount
  lastMove := v.lastMove.map MoveRecord.object

theorem Snapshot.json_object (v : Snapshot) : v.object.json = v.json := by
  have hlast : Json.ofOption PlacementObject.json (v.lastMove.map MoveRecord.object) =
      Json.ofOption MoveRecord.json v.lastMove := by
    cases v.lastMove <;> rfl
  simp only [StateObject.json, Snapshot.json, Snapshot.object, hlast, Board.json, Board.grid,
    Score.json, Board.score, List.map_map]
  rfl

end Reversi
