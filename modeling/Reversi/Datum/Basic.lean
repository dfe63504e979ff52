import Reversi.Binary64.Basic
import Reversi.Text.Glyph

/-!
# Reversi.Datum.Basic

Values of any kind, as they come in from outside.

* `Datum`: nothing, a truth value, a number, a text, a list or a record.
* `Datum.put`, `Datum.member?`: the members of a record, of which no two have one name.
* `Datum.string?`: the string that a datum is.
* `Datum.whole?`: the integer that a datum equals.
* `Datum.isEmpty`: data that say nothing.
-/

namespace Reversi

inductive Datum where
  | nothing
  | flag (b : Bool)
  | number (n : Int)
  | real (x : Float)
  | text (gs : List Glyph)
  | list (items : List Datum)
  | record (members : List (List Glyph × Datum))
  deriving Inhabited

namespace Datum

/-- A member takes the place of an earlier one with its name. -/
def put (members : List (List Glyph × Datum)) (name : List Glyph) (x : Datum) :
    List (List Glyph × Datum) :=
  match members with
  | [] => [(name, x)]
  | m :: rest => if m.1 = name then (name, x) :: rest else m :: put rest name x

theorem lookup_put (members : List (List Glyph × Datum)) (name : List Glyph) (x : Datum) :
    (put members name x).lookup name = some x := by
  induction members with
  | nil => simp [put]
  | cons m rest ih =>
    rw [put]
    split
    · simp
    · next h =>
      have hne : (name == m.1) = false := beq_eq_false_iff_ne.mpr (Ne.symm h)
      rw [List.lookup_cons, hne]
      exact ih

def ofMembers (members : List (List Glyph × Datum)) : Datum :=
  .record (members.foldl (fun found m => put found m.1 m.2) [])

def member? (name : String) (members : List (List Glyph × Datum)) : Option Datum :=
  members.lookup (Text.glyphs name)

def string? : Datum → Option String
  | text gs => Text.string? gs
  | _ => none

def ofString (s : String) : Datum := .text (Text.glyphs s)

/-- A truth value counts as 1 or 0. -/
def whole? : Datum → Option Int
  | flag b => some (if b then 1 else 0)
  | number n => some n
  | real x => if x.isNaN || x.isInf then none else (Binary64.ofFloat x).whole?
  | _ => none

/-- Zero and what is false count as empty. -/
def isEmpty : Datum → Bool
  | nothing => true
  | text gs => gs.isEmpty
  | list items => items.isEmpty
  | record members => members.isEmpty
  | d => d.whole? == some 0

end Datum

end Reversi
