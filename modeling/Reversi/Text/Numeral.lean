import Reversi.Text.Blank
import Reversi.Text.Digits
import Reversi.Text.Quoted

/-!
# Reversi.Text.Numeral

Whole numbers as people write them: an optional sign, then digits, with single underscores
between digits. A numeral of more than `maxDigits` digits is refused whatever its value.

* `digits?`: the values of the digits of an unsigned numeral, underscores removed.
* `splitSign`: the sign and the rest.
* `readInt`: a numeral between blanks, its digits from any script, or why it is none.
* `NumeralFault.message`: the wording; a long text is quoted up to its first 200 characters.
-/

namespace Reversi
namespace Text

def maxDigits : Nat := 4300

/-- Digits separated by nothing or by one underscore. -/
def digits? (digit? : Char → Option Nat) : List Char → Option (List Nat)
  | [] => none
  | [c] => (digit? c).map ([·])
  | c :: '_' :: rest => do
    let d ← digit? c
    let ds ← digits? digit? rest
    return d :: ds
  | c :: rest => do
    let d ← digit? c
    let ds ← digits? digit? rest
    return d :: ds

/-- Whether a sign is a minus, and what follows the sign, if there is one. -/
def splitSign : List Char → Bool × List Char
  | '-' :: cs => (true, cs)
  | '+' :: cs => (false, cs)
  | cs => (false, cs)

def value (negative : Bool) (ds : List Nat) : Int :=
  let n : Nat := ds.foldl (fun n d => 10 * n + d) 0
  if negative then -n else n

inductive NumeralFault where
  | notANumeral (text : List Glyph)
  | tooLong (digits : Nat)
  deriving DecidableEq

namespace NumeralFault

def message : NumeralFault → String
  | notANumeral text =>
    "invalid literal for int() with base 10: " ++ String.ofList ((quote text).toList.take 200)
  | tooLong digits =>
    s!"Exceeds the limit ({maxDigits} digits) for integer string conversion: value has " ++
      s!"{digits} digits; use sys.set_int_max_str_digits() to increase the limit"

end NumeralFault

/-- Blanks around a numeral: of the ASCII separators only the ordinary ones count. -/
def isNumeralBlank (c : Char) : Bool :=
  isBlank c && !(28 ≤ c.toNat && c.toNat ≤ 31)

/-- The digits are counted before anything is said about the text after them. -/
def readInt (gs : List Glyph) : Except NumeralFault Int :=
  let (negative, cs) := splitSign ((shapes gs).dropWhile isNumeralBlank)
  let inNumeral (c : Char) : Bool := c == '_' || (digit? c).isSome
  match digits? digit? (cs.takeWhile inNumeral) with
  | none => .error (.notANumeral gs)
  | some ds =>
    if ds.length > maxDigits then .error (.tooLong ds.length)
    else if (cs.dropWhile inNumeral).all isNumeralBlank then .ok (value negative ds)
    else .error (.notANumeral gs)

end Text
end Reversi
