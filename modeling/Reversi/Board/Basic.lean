import Reversi.Side
import Reversi.SignedIndex
import Reversi.Square

/-!
# Reversi.Board.Basic

The board: sixty-four cells, row by row.

* `Board.get`, `Board.set`: one cell.
* `Board.rows`: the cells as eight rows.
* `Board.count`, `Board.empties`, `Board.isFull`: how often a content occurs.
* `Board.ofCells`: a board from a list of cells, which must have the right length.
* `Board.cellAt`: the cell at a row and a column that need not be on the board; only the
  index that they make is checked.
* `Board.start`: the position from which a game begins.
-/

namespace Reversi

structure Board where
  cells : Vector Cell 64
  deriving DecidableEq

namespace Board

theorem ext {a b : Board} (h : a.cells = b.cells) : a = b := by
  cases a; cases b; simpa using h

def get (b : Board) (s : Square) : Cell := b.cells.get s.index

def set (b : Board) (s : Square) (c : Cell) : Board :=
  ⟨b.cells.set s.index.val c s.index_lt⟩

def toList (b : Board) : List Cell := b.cells.toList

def rows (b : Board) : List (List Cell) :=
  (List.finRange 8).map fun r => (List.finRange 8).map fun c => b.get ⟨r, c⟩

def count (b : Board) (c : Cell) : Nat := b.toList.count c

def empties (b : Board) : Nat := b.count .empty

def isFull (b : Board) : Bool := b.empties == 0

/-- The board without discs. -/
def bare : Board := ⟨Vector.replicate 64 .empty⟩

def start : Board :=
  (((bare.set ⟨3, 3⟩ .white).set ⟨3, 4⟩ .black).set ⟨4, 3⟩ .black).set ⟨4, 4⟩ .white

/-- `none` when there are not exactly sixty-four cells. -/
def ofCells? (cs : List Cell) : Option Board :=
  if h : cs.length = 64 then some ⟨⟨cs.toArray, by simpa using h⟩⟩ else none

def cellAt (b : Board) (row col : Int) : Except IndexFault Cell :=
  (SignedIndex.resolve 64 (8 * row + col)).map b.cells.get

/-! ## Reading back what was written -/

theorem length_toList (b : Board) : b.toList.length = 64 := by
  simp [toList]

theorem ofCells?_toList (b : Board) : ofCells? b.toList = some b := by
  rw [ofCells?, dif_pos b.length_toList]
  rfl

@[simp] theorem get_set_self (b : Board) (s : Square) (c : Cell) : (b.set s c).get s = c := by
  simp [get, set, Square.get_eq_getElem]

theorem get_set_ne {b : Board} {s t : Square} {c : Cell} (h : s ≠ t) :
    (b.set s c).get t = b.get t := by
  have hi : s.index.val ≠ t.index.val := by
    intro e
    apply h
    rw [← Square.ofIndex_index s, Fin.ext e, Square.ofIndex_index]
  simp [get, set, Square.get_eq_getElem, Vector.getElem_set_ne _ _ hi]

end Board

/-! ## Score and result -/

structure Score where
  black : Nat
  white : Nat
  deriving DecidableEq

def Board.score (b : Board) : Score := ⟨b.count .black, b.count .white⟩

/-- How a finished game ended. -/
inductive Outcome where
  | won (side : Side)
  | draw
  deriving DecidableEq

/-- The side with more discs wins. -/
def Score.outcome (s : Score) : Outcome :=
  if s.white < s.black then .won .black
  else if s.black < s.white then .won .white
  else .draw

def Board.outcome (b : Board) : Outcome := b.score.outcome

end Reversi
