import Reversi.Datum.Basic

/-!
# Reversi.Web.Quotable

Which data an answer can repeat.

* `Datum.isPrivate`: the members of records that answers leave out.
* `Datum.hasSpelling`: data that answers have a spelling for.
* `Datum.depth`: how deep lists and records are nested.
* `Datum.quotable`: whether an answer could repeat a datum.
-/

namespace Reversi
namespace Datum

/-- Names that start with these three characters are kept inside. -/
def isPrivate (name : List Glyph) : Bool := (Text.glyphs "_sa").isPrefixOf name

mutual

/-- Answers have no spelling for infinite numbers, for what is no number and for half of a
surrogate pair. -/
def hasSpelling : Datum → Bool
  | real x => !(x.isNaN || x.isInf)
  | text gs => !gs.any Glyph.isHalf
  | list items => itemsHaveSpelling items
  | record members => membersHaveSpelling members
  | _ => true

def itemsHaveSpelling : List Datum → Bool
  | [] => true
  | x :: items => hasSpelling x && itemsHaveSpelling items

def membersHaveSpelling : List (List Glyph × Datum) → Bool
  | [] => true
  | (name, x) :: members =>
    (isPrivate name || (!name.any Glyph.isHalf && hasSpelling x)) && membersHaveSpelling members

end

mutual

def depth : Datum → Nat
  | list items => itemsDepth items + 1
  | record members => membersDepth members + 1
  | _ => 0

def itemsDepth : List Datum → Nat
  | [] => 0
  | x :: items => max (depth x) (itemsDepth items)

def membersDepth : List (List Glyph × Datum) → Nat
  | [] => 0
  | (name, x) :: members => max (if isPrivate name then 0 else depth x) (membersDepth members)

end

/-- How deep a datum may be that an answer repeats. -/
def maxQuotedDepth : Nat := 959

def quotable (x : Datum) : Bool := x.hasSpelling && x.depth ≤ maxQuotedDepth

end Datum
end Reversi
