import Reversi.Unrecognized

/-!
# Reversi.Side

The two sides of the game and what a cell of the board can hold.

* `Side`: Black or White, with `opponent`, `label` and the wire code 1 or 2.
* `Cell`: empty or a disc of one side, with the wire code 0, 1 or 2 and the diagram symbol.
* `Side.disc`: the cell that holds a disc of that side.
-/

namespace Reversi

inductive Side where
  | black
  | white
  deriving DecidableEq

namespace Side

def opponent : Side → Side
  | black => white
  | white => black

def label : Side → String
  | black => "Black"
  | white => "White"

/-- The label in small letters, as answers to clients write it. -/
def name : Side → String
  | black => "black"
  | white => "white"

def code : Side → Nat
  | black => 1
  | white => 2

def ofCode? : Int → Option Side
  | 1 => some black
  | 2 => some white
  | _ => none

@[simp] theorem opponent_opponent (s : Side) : s.opponent.opponent = s := by
  cases s <;> rfl

theorem opponent_ne (s : Side) : s.opponent ≠ s := by
  cases s <;> decide

theorem eq_or_eq_opponent (s t : Side) : t = s ∨ t = s.opponent := by
  cases s <;> cases t <;> decide

/-- A value counts as the integer that it equals. -/
def ofDatum (d : Datum) : Except Unrecognized Side :=
  match d.whole?.bind ofCode? with
  | some s => .ok s
  | none => .error (.ofDatum d "Seat")

theorem ofCode?_code (s : Side) : ofCode? s.code = some s := by
  cases s <;> rfl

end Side

inductive Cell where
  | empty
  | black
  | white
  deriving DecidableEq

namespace Cell

def code : Cell → Nat
  | empty => 0
  | black => 1
  | white => 2

def ofCode? : Int → Option Cell
  | 0 => some empty
  | 1 => some black
  | 2 => some white
  | _ => none

/-- A value counts as the integer that it equals. -/
def ofDatum (d : Datum) : Except Unrecognized Cell :=
  match d.whole?.bind ofCode? with
  | some c => .ok c
  | none => .error (.ofDatum d "Cell")

def symbol : Cell → Char
  | empty => '.'
  | black => 'B'
  | white => 'W'

def ofSymbol? : Char → Option Cell
  | '.' => some empty
  | 'B' => some black
  | 'W' => some white
  | _ => none

theorem ofCode?_code (c : Cell) : ofCode? c.code = some c := by
  cases c <;> rfl

theorem ofSymbol?_symbol (c : Cell) : ofSymbol? c.symbol = some c := by
  cases c <;> rfl

end Cell

/-- The cell that holds a disc of this side. -/
def Side.disc : Side → Cell
  | .black => .black
  | .white => .white

theorem Side.disc_ne_empty (s : Side) : s.disc ≠ .empty := by
  cases s <;> decide

theorem Side.disc_opponent_ne (s : Side) : s.opponent.disc ≠ s.disc := by
  cases s <;> decide

end Reversi
