import Std.Data.HashMap
import Reversi.Engine.Value
import Reversi.Square

/-!
# Reversi.Engine.Table

The transposition table: what earlier searches found out about positions, by their keys.

* `Bound`: how an entry's value relates to the true one; an unknown kind tells nothing.
* `Entry`: searched depth, value, kind of bound and best placement.
* `Window`: the values that still matter to a search.
* `Entry.consult`: what an entry contributes to a search of a depth in a window.
-/

namespace Reversi

inductive Bound where
  | exact
  | lower
  | upper
  | unknown (code : Int)
  deriving DecidableEq

namespace Bound

def code : Bound → Int
  | exact => 0
  | lower => 1
  | upper => 2
  | unknown n => n

def ofCode : Int → Bound
  | 0 => exact
  | 1 => lower
  | 2 => upper
  | n => unknown n

end Bound

structure Entry where
  depth : Int
  value : Value
  bound : Bound
  best : Option Position
  deriving DecidableEq

abbrev Table := Std.HashMap UInt64 Entry

namespace Table

/-- The entries by rising key. -/
def sorted (t : Table) : List (UInt64 × Entry) :=
  t.toList.mergeSort fun a b => decide (a.1 ≤ b.1)

end Table

structure Window where
  alpha : Value
  beta : Value
  deriving DecidableEq

namespace Window

def full : Window := ⟨.negInf, .posInf⟩

def isClosed (w : Window) : Bool := decide (w.beta ≤ w.alpha)

/-- The kind of bound that a search in the window `w` found with the value `v`. -/
def classify (w : Window) (v : Value) : Bound :=
  if v ≤ w.alpha then .upper else if w.beta ≤ v then .lower else .exact

end Window

/-- Either the entry answers the search or the search goes on in a window. -/
inductive Consultation where
  | answer (value : Value) (best : Option Position)
  | continue (window : Window)

namespace Entry

/-- The window that is left when the entry's bound is taken into account. -/
def narrow (e : Entry) (w : Window) : Window :=
  match e.bound with
  | .lower => { w with alpha := max w.alpha e.value }
  | .upper => { w with beta := min w.beta e.value }
  | _ => w

def consult (e : Entry) (depth : Int) (w : Window) : Consultation :=
  if e.depth < depth then .continue w
  else if e.bound = .exact ∨ (e.narrow w).isClosed then .answer e.value e.best
  else .continue (e.narrow w)

end Entry

end Reversi
