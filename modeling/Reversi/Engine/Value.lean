/-!
# Reversi.Engine.Value

Values of positions: an integer, or one of the two infinite values that open a search window.
Integers are enough. Square weights, the weight of a placement, the bonus of a win and counts of
discs are whole numbers, so that every evaluation is one; a search starts from the infinite values
and from evaluations, and it compares values, takes the greater or the smaller one of two and stores
them, but computes no new ones. All of them are so small that binary64 numbers hold them exactly.

* `Value`: with its linear order and `max` and `min`, which keep the first of two equal values.
* `Value.ofInt?`: an integer from outside, held to the precision of binary64 numbers.
* `Value.toFloat`: the value as a binary64 number.
-/

namespace Reversi

inductive Value where
  | negInf
  | fin (n : Int)
  | posInf
  deriving DecidableEq

namespace Value

def below : Value → Value → Bool
  | negInf, negInf => false
  | negInf, _ => true
  | fin a, fin b => decide (a < b)
  | fin _, posInf => true
  | _, _ => false

instance : LT Value := ⟨fun a b => a.below b = true⟩

instance : LE Value := ⟨fun a b => b.below a = false⟩

instance (a b : Value) : Decidable (a < b) := inferInstanceAs (Decidable (a.below b = true))

instance (a b : Value) : Decidable (a ≤ b) := inferInstanceAs (Decidable (b.below a = false))

instance : Max Value := ⟨fun a b => if a < b then b else a⟩

instance : Min Value := ⟨fun a b => if b < a then b else a⟩

@[simp] theorem fin_lt_fin {a b : Int} : fin a < fin b ↔ a < b := by
  change decide (a < b) = true ↔ a < b
  simp

@[simp] theorem fin_le_fin {a b : Int} : fin a ≤ fin b ↔ a ≤ b := by
  change decide (b < a) = false ↔ a ≤ b
  simp

theorem not_lt {a b : Value} : ¬ a < b ↔ b ≤ a := by
  change ¬ a.below b = true ↔ a.below b = false
  simp

/-- The number of at most 53 binary digits nearest to `n`; of two, the one whose last digit
is 0. -/
def nearest (n : Nat) : Nat :=
  let places := n.log2 - 52
  let kept := n >>> places
  let rest := 2 * (n - kept <<< places)
  let unit := 1 <<< places
  (if unit < rest ∨ (unit = rest ∧ kept % 2 = 1) then kept + 1 else kept) <<< places

/-- No binary64 number reaches 2 to the power 1024. -/
def ofInt? (n : Int) : Option Value :=
  let size := nearest n.natAbs
  if size.log2 < 1024 then some (fin (if n < 0 then -size else size)) else none

/-- Up to 53 binary digits nothing is lost. -/
theorem nearest_of_lt {n : Nat} (h : n < 9007199254740992) : nearest n = n := by
  have hlog : n.log2 - 52 = 0 := by
    by_cases hn : n = 0
    · subst hn
      decide
    · have := (Nat.log2_lt hn (k := 53)).2 (by simpa using h)
      omega
  simp [nearest, hlog]

def toFloat : Value → Float
  | negInf => -(1.0 / 0.0)
  | fin n => Float.ofInt n
  | posInf => 1.0 / 0.0

end Value

end Reversi
