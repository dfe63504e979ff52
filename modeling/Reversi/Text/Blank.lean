/-!
# Reversi.Text.Blank

Blank characters.

* `isSpace`: the characters with the Unicode property White_Space.
* `isBlank`: these and the four information separators U+001C to U+001F.
* `trim`, `trimEnd`: a list of characters without those of a class at both ends, or at the end.
-/

namespace Reversi
namespace Text

def isSpace (c : Char) : Bool :=
  let n := c.toNat
  (9 ≤ n && n ≤ 13) || n == 32 || n == 0x85 || n == 0xa0 || n == 0x1680 ||
    (0x2000 ≤ n && n ≤ 0x200a) || n == 0x2028 || n == 0x2029 || n == 0x202f || n == 0x205f ||
    n == 0x3000

def isBlank (c : Char) : Bool :=
  isSpace c || (28 ≤ c.toNat && c.toNat ≤ 31)

theorem isBlank_of_isWhitespace {c : Char} (h : c.isWhitespace = true) : isBlank c = true := by
  simp only [Char.isWhitespace, Bool.or_eq_true, decide_eq_true_eq] at h
  rcases h with ((rfl | rfl) | rfl) | rfl <;> decide

def trimEnd (class? : Char → Bool) (cs : List Char) : List Char :=
  (cs.reverse.dropWhile class?).reverse

def trim (class? : Char → Bool) (cs : List Char) : List Char :=
  trimEnd class? (cs.dropWhile class?)

end Text
end Reversi
