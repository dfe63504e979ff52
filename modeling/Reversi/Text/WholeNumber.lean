import Reversi.Text.Numeral

/-!
# Reversi.Text.WholeNumber

Whole numbers as clients write them, which is looser than a numeral: zeros may stand before the
number and after a point behind it, also with underscores between them.

* `dropLeadingZeros?`, `dropZeroPlaces`, `dropUnderscores`: the parts of the cleaning.
* `cleaned?`: the text without what does not count.
* `readPlain`: a number that needs no cleaning.
* `readWholeNumber`: the number that a text spells, or why it spells none.
-/

namespace Reversi
namespace Text

inductive WholeNumberFault where
  | malformed
  | tooLong
  deriving DecidableEq

def isAsciiDigit (c : Char) : Bool := (asciiDigit? c).isSome

/-- What is left after a zero: zeros and underscores are passed over up to a digit or a minus
sign. At the end or at a point the character before it stays, `last`. -/
def afterZero? (last : Char) : List Char → Option (List Char)
  | [] => some [last]
  | c :: cs =>
    if c = '0' ∨ c = '_' then afterZero? c cs
    else if c = '.' then some (last :: c :: cs)
    else if c = '-' ∨ isAsciiDigit c then some (c :: cs)
    else none

/-- A number starts with a digit. -/
def dropLeadingZeros? : List Char → Option (List Char)
  | [] => none
  | c :: cs =>
    if c = '0' then afterZero? c cs
    else if isAsciiDigit c then some (c :: cs)
    else none

/-- The text before a point that only zeros follow, at least one of them. -/
def dropZeroPlaces (cs : List Char) : List Char :=
  let zeros := cs.reverse.takeWhile (· == '0')
  match cs.reverse.dropWhile (· == '0') with
  | '.' :: whole => if zeros.isEmpty then cs else whole.reverse
  | _ => cs

/-- Whether every underscore has another character at both sides. -/
def underscoresApart : List Char → Bool
  | [] => true
  | ['_'] => false
  | _ :: '_' :: '_' :: _ => false
  | _ :: cs => underscoresApart cs

def dropUnderscores (cs : List Char) : List Char :=
  if cs.head? ≠ some '_' ∧ underscoresApart cs then cs.filter (· != '_') else cs

/-- A plus sign counts for nothing, but no minus sign may follow it. -/
def cleaned? (text : String) : Option (List Char) :=
  let rest (cs : List Char) : Option (List Char) :=
    (dropLeadingZeros? cs).map fun cs => dropUnderscores (dropZeroPlaces cs)
  match trim isSpace text.toList with
  | '+' :: '-' :: _ => none
  | '+' :: cs => rest cs
  | '-' :: cs => (rest cs).map ('-' :: ·)
  | cs => rest cs

/-- Digits, of which a first zero is the only one. They are counted before anything is said about
the text after them. -/
def readDigits (negative : Bool) (cs : List Char) : Except WholeNumberFault Int :=
  match cs.takeWhile isAsciiDigit with
  | [] => .error .malformed
  | '0' :: _ :: _ => .error .malformed
  | ds =>
    if ds.length > maxDigits then .error .tooLong
    else if (cs.dropWhile isAsciiDigit).isEmpty then
      .ok (value negative (ds.filterMap asciiDigit?))
    else .error .malformed

def readPlain : List Char → Except WholeNumberFault Int
  | '-' :: cs => readDigits true cs
  | cs => readDigits false cs

/-- A text is cleaned when it is no number as it stands. Only there it can be too long; a cleaned
text of too many digits is just malformed. -/
def readWholeNumber (text : String) : Except WholeNumberFault Int :=
  match readPlain text.toList with
  | .ok n => .ok n
  | .error .tooLong => .error .tooLong
  | .error .malformed =>
    match (cleaned? text).map readPlain with
    | some (.ok n) => .ok n
    | _ => .error .malformed

end Text
end Reversi
