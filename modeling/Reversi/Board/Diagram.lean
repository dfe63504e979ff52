import Reversi.Board.Basic
import Reversi.Text.Blank
import Reversi.Text.Quoted

/-!
# Reversi.Board.Diagram

Boards as text: eight lines of `.`, `B` and `W`. Blank characters are skipped when a diagram is
read, wherever they stand.

* `Board.ofGlyphs`, `Board.ofDiagram`: read a diagram; an unknown symbol is reported before a wrong
  length.
* `Board.ofData`: a board from the wire codes of its cells.
* `Board.diagram`: writes it.
* `BoardFault`: why there is no board.
-/

namespace Reversi

inductive BoardFault where
  | unknownSymbol (g : Glyph)
  | wrongSize (found : Nat)
  | unrecognized (cell : Unrecognized)
  deriving DecidableEq

namespace BoardFault

def message : BoardFault → String
  | unknownSymbol g => "Unknown board character " ++ Text.quote [g]
  | wrongSize found => s!"Board needs 64 cells, got {found}"
  | unrecognized cell => cell.message

end BoardFault

namespace Board

def ofCells (cs : List Cell) : Except BoardFault Board :=
  match ofCells? cs with
  | some b => .ok b
  | none => .error (.wrongSize cs.length)

/-- The cells that the symbols stand for, or the first symbol that stands for none. -/
def readSymbols : List Glyph → Except BoardFault (List Cell)
  | [] => .ok []
  | g :: gs =>
    match g.char?.bind Cell.ofSymbol? with
    | none => .error (.unknownSymbol g)
    | some x => (readSymbols gs).map (x :: ·)

def ofGlyphs (gs : List Glyph) : Except BoardFault Board :=
  match readSymbols (gs.filter fun g => !g.char?.any Text.isBlank) with
  | .ok cells => ofCells cells
  | .error f => .error f

def ofDiagram (s : String) : Except BoardFault Board := ofGlyphs (Text.glyphs s)

def readCells : List Datum → Except BoardFault (List Cell)
  | [] => .ok []
  | d :: ds =>
    match Cell.ofDatum d with
    | .error u => .error (.unrecognized u)
    | .ok x => (readCells ds).map (x :: ·)

def ofData (ds : List Datum) : Except BoardFault Board :=
  match readCells ds with
  | .ok cells => ofCells cells
  | .error f => .error f

def diagram (b : Board) : String :=
  String.intercalate "\n" (b.rows.map fun row => String.ofList (row.map Cell.symbol))

end Board

end Reversi
