/-!
# Reversi.SignedIndex

Looking up an element by a signed index: 0 is the first element and -1 the last one. An index
that is no 64-bit word is refused before the size is looked at.

* `SignedIndex.resolve`: the element's place, or why there is none.
* `IndexFault`: the two reasons.
-/

namespace Reversi

inductive IndexFault where
  | outOfRange
  | tooWide
  deriving DecidableEq

namespace IndexFault

/-- `container` names what was indexed. -/
def message (container : String) : IndexFault → String
  | outOfRange => container ++ " index out of range"
  | tooWide => "cannot fit 'int' into an index-sized integer"

end IndexFault

namespace SignedIndex

def resolve (size : Nat) (i : Int) : Except IndexFault (Fin size) :=
  if i < -9223372036854775808 ∨ 9223372036854775808 ≤ i then .error .tooWide
  else if h : 0 ≤ i ∧ i < size then .ok ⟨i.toNat, by omega⟩
  else if h : i < 0 ∧ 0 ≤ i + size then .ok ⟨(i + size).toNat, by omega⟩
  else .error .outOfRange

end SignedIndex

end Reversi
