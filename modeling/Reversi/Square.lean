/-!
# Reversi.Square

The geometry of the eight by eight board.

* `Square`: a row and a column, each below eight; `Square.all` lists them row by row.
* `Position`: any two integers, on the board or not; `Position.square?` finds the square.
* `Direction`: the eight neighbours, from the upper left to the lower right.
* `Square.ray`: the squares met from a square outward in one direction, nearest first.
-/

namespace Reversi

structure Square where
  row : Fin 8
  col : Fin 8
  deriving DecidableEq

/-- A pair of coordinates that need not lie on the board. -/
structure Position where
  row : Int
  col : Int
  deriving DecidableEq

namespace Position

def square? (p : Position) : Option Square :=
  if h : 0 ≤ p.row ∧ p.row < 8 ∧ 0 ≤ p.col ∧ p.col < 8 then
    some ⟨⟨p.row.toNat, by omega⟩, ⟨p.col.toNat, by omega⟩⟩
  else none

/-- The written form of a pair, as messages show it. -/
def text (p : Position) : String := s!"({p.row}, {p.col})"

end Position

namespace Square

def position (s : Square) : Position := ⟨s.row.val, s.col.val⟩

/-- Row by row, the place of a square among the sixty-four. -/
def index (s : Square) : Fin 64 := ⟨8 * s.row.val + s.col.val, by omega⟩

theorem index_lt (s : Square) : s.index.val < 64 := s.index.isLt

def ofIndex (i : Fin 64) : Square := ⟨⟨i.val / 8, by omega⟩, ⟨i.val % 8, by omega⟩⟩

def all : List Square := (List.finRange 64).map ofIndex

@[simp] theorem ofIndex_index (s : Square) : ofIndex s.index = s := by
  obtain ⟨⟨r, hr⟩, ⟨c, hc⟩⟩ := s
  simp only [ofIndex, index, mk.injEq, Fin.mk.injEq]
  omega

@[simp] theorem index_ofIndex (i : Fin 64) : (ofIndex i).index = i := by
  apply Fin.ext
  simp only [ofIndex, index]
  omega

theorem mem_all (s : Square) : s ∈ all :=
  List.mem_map.2 ⟨s.index, List.mem_finRange _, ofIndex_index s⟩

@[simp] theorem square?_position (s : Square) : s.position.square? = some s := by
  obtain ⟨⟨r, hr⟩, ⟨c, hc⟩⟩ := s
  have h : (0 : Int) ≤ r ∧ (r : Int) < 8 ∧ (0 : Int) ≤ c ∧ (c : Int) < 8 := by omega
  simp [position, Position.square?, h]

end Square

theorem Position.position_of_square? {p : Position} {s : Square} (h : p.square? = some s) :
    s.position = p := by
  obtain ⟨r, c⟩ := p
  simp only [Position.square?] at h
  split at h
  · rename_i hb
    cases h
    simp only [Square.position, Position.mk.injEq]
    omega
  · cases h

/-! ## Directions and rays -/

inductive Direction where
  | northWest
  | north
  | northEast
  | west
  | east
  | southWest
  | south
  | southEast
  deriving DecidableEq

namespace Direction

/-- Change of row of one step; rows count downward. -/
def down : Direction → Int
  | northWest | north | northEast => -1
  | west | east => 0
  | southWest | south | southEast => 1

/-- Change of column of one step; columns count to the right. -/
def right : Direction → Int
  | northWest | west | southWest => -1
  | north | south => 0
  | northEast | east | southEast => 1

/-- The order in which flipped discs are listed. -/
def all : List Direction :=
  [northWest, north, northEast, west, east, southWest, south, southEast]

theorem mem_all (d : Direction) : d ∈ all := by
  cases d <;> decide

end Direction

namespace Square

def step? (s : Square) (d : Direction) : Option Square :=
  Position.square? ⟨s.row.val + d.down, s.col.val + d.right⟩

/-- At most `n` squares from `s` outward, without `s` itself. -/
def walk (d : Direction) : Nat → Square → List Square
  | 0, _ => []
  | n + 1, s =>
    match s.step? d with
    | none => []
    | some t => t :: walk d n t

/-- Seven steps reach the edge from everywhere. -/
def ray (s : Square) (d : Direction) : List Square := walk d 7 s

theorem get_eq_getElem {α : Type} {n : Nat} (v : Vector α n) (i : Fin n) :
    v.get i = v[i.val] := rfl

/-- The rays of every square, worked out once. -/
def rayTable : Vector (List (List Square)) 64 :=
  Vector.ofFn fun i => Direction.all.map (ofIndex i).ray

def rays (s : Square) : List (List Square) := rayTable.get s.index

theorem rays_eq (s : Square) : s.rays = Direction.all.map s.ray := by
  rw [rays, rayTable, get_eq_getElem, Vector.getElem_ofFn, Fin.eta, ofIndex_index]

end Square

end Reversi
