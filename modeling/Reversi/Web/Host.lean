import Reversi.Text.Digits

/-!
# Reversi.Web.Host

Which texts are addresses of a host in numbers.

* `Host.pieces`: what stands between the marks in a text.
* `Host.isFourNumbers`: four numbers from 0 to 255 with points between them.
* `Host.looksNumeric`: four runs of digits with points between them.
* `Host.isEightNumbers`: eight groups of hexadecimal digits with colons between them. Two colons
  stand for groups that are zero, and four numbers may stand for the last two groups.
-/

namespace Reversi
namespace Host

open Text

/-- There is one piece more than there are marks. -/
def pieces {α : Type} (isMark : α → Bool) (xs : List α) : List (List α) :=
  xs.foldr (fun x found =>
    match found with
    | [] => [[x]]
    | piece :: rest => if isMark x then [] :: piece :: rest else (x :: piece) :: rest) [[]]

theorem pieces_ne_nil {α : Type} (isMark : α → Bool) (xs : List α) : pieces isMark xs ≠ [] := by
  cases xs with
  | nil => simp [pieces]
  | cons x xs =>
    simp only [pieces, List.foldr_cons]
    split
    · simp
    · split <;> simp

theorem length_pieces {α : Type} (isMark : α → Bool) (xs : List α) :
    (pieces isMark xs).length = xs.countP isMark + 1 := by
  induction xs with
  | nil => rfl
  | cons x xs ih =>
    rw [List.countP_cons]
    have hne := pieces_ne_nil isMark xs
    simp only [pieces, List.foldr_cons] at ih hne ⊢
    split
    · contradiction
    · next piece rest h =>
      rw [h, List.length_cons] at ih
      split <;> simp_all

def isDigit (c : Char) : Bool := (asciiDigit? c).isSome

/-- No zero stands before another digit. -/
def isSmallNumber (cs : List Char) : Bool :=
  let n := (cs.filterMap asciiDigit?).foldl (fun n d => 10 * n + d) 0
  !cs.isEmpty && cs.all isDigit && cs.length ≤ 3 && n < 256 &&
    (cs.length == 1 || cs.head? != some '0')

def isFourNumbers (cs : List Char) : Bool :=
  let found := pieces (· == '.') cs
  found.length == 4 && found.all isSmallNumber

def looksNumeric (cs : List Char) : Bool :=
  let found := pieces (· == '.') cs
  found.length == 4 && found.all fun piece => !piece.isEmpty && piece.all isDigit

def isGroup (cs : List Char) : Bool :=
  !cs.isEmpty && cs.length ≤ 4 && cs.all fun c => (hexValue? c).isSome

/-- The groups between two colons in a row, if there are such, leave out at least one group. -/
def areGroups (groups : List (List Char)) : Bool :=
  let inner := (groups.drop 1).dropLast
  match (inner.zipIdx.filter fun p => p.1.isEmpty).map (·.2 + 1) with
  | [] => groups.length == 8 && groups.all isGroup
  | [gap] =>
    let high := groups.take gap
    let low := groups.drop (gap + 1)
    let high := if high == [[]] then [] else high
    let low := if low == [[]] then [] else low
    high.all isGroup && low.all isGroup && high.length + low.length < 8
  | _ => false

/-- A zone may follow a percent sign. -/
def isEightNumbers (cs : List Char) : Bool :=
  let groups := pieces (· == ':') (cs.takeWhile (· != '%'))
  let zone := (cs.dropWhile (· != '%')).drop 1
  let zoneFine := !cs.contains '%' || (!zone.isEmpty && !zone.contains '%')
  let last := groups.getLast?.getD []
  let groups :=
    if !last.contains '.' then groups
    else if isFourNumbers last then groups.dropLast ++ [['0'], ['0']]
    else [['.']]
  zoneFine && 3 ≤ groups.length && groups.length ≤ 9 && areGroups groups

end Host
end Reversi
