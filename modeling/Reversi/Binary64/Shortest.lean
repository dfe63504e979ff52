import Reversi.Binary64.Basic

/-!
# Reversi.Binary64.Shortest

The shortest decimal fractions that are read as given binary64 numbers.

* `Binary64.Interval`: a number and the bounds of what is rounded to it, as whole numbers.
* `Binary64.Interval.candidate?`: the best decimal fraction of a number of digits.
* `Binary64.shortest`: the digits of the shortest one, and how many stand before the point.
* `Binary64.text`: how a number is written.
-/

namespace Reversi
namespace Binary64

/-- All three are taken times the same unit; the bounds themselves belong to even numbers. -/
structure Interval where
  low : Nat
  value : Nat
  high : Nat
  closed : Bool

namespace Interval

/-- In quarters of the last bit. Below a power of two the numbers lie twice as close. -/
def quarters (x : Binary64) : Interval :=
  let isEdge := x.size == 0x10000000000000 && -1074 < x.power
  ⟨4 * x.size - (if isEdge then 1 else 2), 4 * x.size, 4 * x.size + 2, x.size % 2 == 0⟩

def scale (n : Nat) (i : Interval) : Interval :=
  ⟨n * i.low, n * i.value, n * i.high, i.closed⟩

def contains (i : Interval) (n : Nat) : Bool :=
  if i.closed then i.low ≤ n && n ≤ i.high else i.low < n && n < i.high

/-- The multiple of `unit` next to the value that lies in the interval, as a count of units. Of two
the nearer one is taken, and the even one where both are equally near. -/
def candidate? (i : Interval) (unit : Nat) : Option Nat :=
  let below := i.value / unit
  let above := below + 1
  match i.contains (below * unit), i.contains (above * unit) with
  | false, false => none
  | true, false => some below
  | false, true => some above
  | true, true =>
    let twice := 2 * i.value
    let middle := (below + above) * unit
    if twice < middle ∨ (twice = middle ∧ below % 2 = 0) then some below else some above

end Interval

def digits (n : Nat) : List Char := (toString n).toList

/-- How many digits the whole part has; 0 or less tells how many zeros follow the point. -/
def places (x : Binary64) : Int :=
  let size := x.size * Nat.pow 10 340
  ((digits ((size <<< x.power.toNat) >>> (-x.power).toNat)).length : Int) - 340

/-- The best fraction whose last digit stands for `10 ^ last`. -/
def onGrid? (x : Binary64) (last : Int) : Option Nat :=
  let power := x.power - 2
  let scale := Nat.pow 10 (-last).toNat <<< power.toNat
  let unit := Nat.pow 10 last.toNat <<< (-power).toNat
  ((Interval.quarters x).scale scale).candidate? unit

/-- Seventeen digits tell any two numbers apart. -/
def shortest (x : Binary64) : List Char × Int :=
  let found := (List.range 17).findSome? fun n : Nat =>
    let last := x.places - (n + 1 : Nat)
    (x.onGrid? last).map (·, last)
  match found with
  | some (n, last) =>
    let ds := digits n
    ((ds.reverse.dropWhile (· == '0')).reverse, (ds.length : Int) + last)
  | none => (['0'], 1)

/-! ## Text -/

/-- At least two digits. -/
def exponentText (n : Int) : String :=
  let ds := digits n.natAbs
  (if n < 0 then "-" else "+") ++ String.ofList (List.replicate (2 - ds.length) '0' ++ ds)

/-- From four zeros behind the point up to sixteen digits before it, no exponent is written. -/
def finiteText (ds : List Char) (point : Int) : String :=
  if -3 ≤ point ∧ point ≤ 16 then
    let padded := List.replicate (1 - point).toNat '0' ++ ds
    let whole := max point 1
    let padded := padded ++ List.replicate (whole.toNat + 1 - padded.length) '0'
    String.ofList (padded.take whole.toNat ++ '.' :: padded.drop whole.toNat)
  else
    let rest := ds.drop 1
    String.ofList (ds.take 1 ++ if rest.isEmpty then [] else '.' :: rest) ++ "e" ++
      exponentText (point - 1)

def signText (negative : Bool) : String := if negative then "-" else ""

def text (x : Float) : String :=
  let parts := ofFloat x
  if x.isNaN then "nan"
  else if x.isInf then signText parts.negative ++ "inf"
  else if parts.size = 0 then signText parts.negative ++ "0.0"
  else
    let (ds, point) := parts.shortest
    signText parts.negative ++ finiteText ds point

end Binary64
end Reversi
