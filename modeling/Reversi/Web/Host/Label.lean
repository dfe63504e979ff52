import Reversi.Text.Composed
import Reversi.Text.Encoding
import Reversi.Text.Joining
import Reversi.Text.Writing
import Reversi.Web.Host.Allowed
import Reversi.Web.Host.Bootstring

/-!
# Reversi.Web.Host.Label

The labels of host names of any script.

* `LabelFault`: why a text is no label.
* `Label.joinerFits`, `Label.signFits`: characters that need certain neighbours.
* `Label.flowFault?`: the letters of a label are written in one direction.
* `Label.fault?`: what is wrong with a label of any script.
* `Label.asciiFault?`: what is wrong with a label of ASCII, which may be the written form of
  another one.
-/

namespace Reversi

inductive LabelFault where
  | empty
  | notComposed
  | innerHyphens
  | outerHyphen
  | leadingMark
  | forbidden (label : List Glyph) (place : Nat) (found : Glyph)
  /-- A sign without the neighbours that it needs. -/
  | strayed (label : List Glyph) (place : Nat) (found : Glyph)
  | uncharted (label : List Glyph) (place : Nat)
  | neutralStart (label : List Glyph)
  | againstFlow (rightToLeft : Bool) (place : Nat)
  | mixedNumbers
  | looseEnd
  | emptyForm
  | formEndsWithHyphen
  | malformed
  /-- The label has another written form. -/
  | notCanonical
  /-- A joiner behind a character that has no name. -/
  | unnamed
  | tooLong
  deriving DecidableEq

namespace Label

open Text

/-! ## Neighbours -/

/-- Marks of this class take a vowel away. -/
def vowelMark : Nat := 9

def joinerFits (before : List Char) : Bool := before.head?.any fun c => markClass c == vowelMark

/-- A character that keeps letters apart stands behind such a mark, or between letters that would
be joined. `before` is in reverse. -/
def separatorFits (before after : List Char) : Bool :=
  joinerFits before ||
    ((before.dropWhile isTransparent).head?.any joinsAfter &&
      (after.dropWhile isTransparent).head?.any joinsBefore)

def isArabicDigit (c : Char) : Bool := 0x660 ≤ c.toNat && c.toNat < 0x66a

def isEasternDigit (c : Char) : Bool := 0x6f0 ≤ c.toNat && c.toNat < 0x6fa

def isJoiner (c : Char) : Bool := c.toNat == 0x200c || c.toNat == 0x200d

/-- Characters that are allowed among the right neighbours only. -/
def isSign (c : Char) : Bool :=
  [0xb7, 0x375, 0x5f3, 0x5f4, 0x30fb].contains c.toNat || isArabicDigit c || isEasternDigit c

/-- A sign that belongs to a language stands among letters of it. -/
def signFits (before : List Char) (c : Char) (after : List Char) : Bool :=
  let around (p : Char → Bool) : Bool := before.any p || after.any p
  match c.toNat with
  | 0xb7 => before.head? == some 'l' && after.head? == some 'l'
  | 0x375 => after.head?.any isGreek
  | 0x5f3 => before.head?.any isHebrew
  | 0x5f4 => before.head?.any isHebrew
  | 0x30fb => around fun d => d.toNat != 0x30fb && isJapanese d
  | _ =>
    if isArabicDigit c then !around isEasternDigit
    else isEasternDigit c && !around isArabicDigit

def fits (before : List Char) (c : Char) (after : List Char) : Bool :=
  Host.isAllowed c ||
    match c.toNat with
    | 0x200c => separatorFits before after
    | 0x200d => joinerFits before
    | _ => signFits before c after

/-- The first character of a label that does not fit; those before it are in reverse. -/
def characterFault? (label : List Glyph) : List Char → List Char → Option LabelFault
  | _, [] => none
  | before, c :: after =>
    if isJoiner c && before.head?.any Host.isNameless then some .unnamed
    else if fits before c after then characterFault? label (c :: before) after
    else
      let found := label[before.length]?.getD (.char c)
      let place := before.length + 1
      some (if isJoiner c || isSign c then .strayed label place found
        else .forbidden label place found)

/-! ## Direction -/

def isBackward (f : Flow) : Bool := f == .rightToLeft || f == .arabicNumber

/-- No letter runs the other way, and there is one kind of digits at most. `digits` is the kind of
those before. -/
def backwardFault? : Nat → Option Flow → List Flow → Option LabelFault
  | _, _, [] => none
  | place, digits, f :: flows =>
    if f = .leftToRight then some (.againstFlow true place)
    else if f = .arabicNumber ∨ f = .europeanNumber then
      if digits.any (· != f) then some .mixedNumbers
      else backwardFault? (place + 1) (some f) flows
    else backwardFault? (place + 1) digits flows

/-- Marks behind the last letter or digit do not count. -/
def endFault? (flows : List Flow) : Option LabelFault :=
  if (flows.reverse.find? (· != .mark)).any fun f => isBackward f || f == .europeanNumber then none
  else some .looseEnd

/-- A label in which something runs from right to left starts with such a letter. -/
def flowFault? (label : List Glyph) : Option LabelFault :=
  let cs := shapes label
  let flows := cs.map flow
  match cs.findIdx? Host.isUncharted, flows.findIdx? isBackward, flows.head? with
  | some i, _, _ => some (.uncharted label (i + 1))
  | none, none, _ => none
  | none, some _, some .rightToLeft => (backwardFault? 1 none flows).or (endFault? flows)
  | none, some i, some .leftToRight => some (.againstFlow false (i + 1))
  | none, some _, _ => some (.neutralStart label)

/-! ## Labels -/

/-- Two hyphens in the third and fourth place are kept for written forms. -/
def hyphenFault? (cs : List Char) : Option LabelFault :=
  if (cs.drop 2).take 2 = ['-', '-'] then some .innerHyphens
  else if cs.head? = some '-' ∨ cs.getLast? = some '-' then some .outerHyphen
  else none

def fault? (label : List Glyph) : Option LabelFault :=
  let cs := shapes label
  if cs.isEmpty then some .empty
  else if !isComposed cs then some .notComposed
  else
    (hyphenFault? cs).or <|
    if cs.head?.any isMark then some .leadingMark
    else (characterFault? label [] cs).or (flowFault? label)

/-- What stands in front of every written form. -/
def formMark : List Char := "xn--".toList

def written? (cs : List Char) : Option (List Char) :=
  if formMark.isPrefixOf cs then some (cs.drop formMark.length) else none

/-- The text is the one written form of a label. -/
def formFault? (form : List Char) : Option LabelFault :=
  if form.isEmpty then some .emptyForm
  else if form.getLast? = some '-' then some .formEndsWithHyphen
  else
    match Bootstring.decode? form with
    | none => some .malformed
    | some codes =>
      (fault? (codes.map Glyph.ofCode)).or <|
      if Bootstring.encode codes = form then none else some .notCanonical

/-- The letters of the label are small ones. -/
def asciiFault? (cs : List Char) : Option LabelFault :=
  match written? cs with
  | some form => formFault? form
  | none => fault? (cs.map .char)

end Label

namespace LabelFault

/-- Four hexadecimal digits at least, in capital letters. -/
def codeName (g : Glyph) : String :=
  let digits := (Nat.toDigits 16 g.code).map Char.toUpper
  "U+" ++ String.ofList (List.replicate (4 - digits.length) '0' ++ digits)

def message : LabelFault → String
  | empty => "Empty Label"
  | notComposed => "Label must be in Normalization Form C"
  | innerHyphens => "Label has disallowed hyphens in 3rd and 4th position"
  | outerHyphen => "Label must not start or end with a hyphen"
  | leadingMark => "Label begins with an illegal combining character"
  | forbidden label place found =>
    s!"Codepoint {codeName found} at position {place} of " ++ Text.quote label ++ " not allowed"
  | strayed label place found =>
    (if Label.isJoiner found.shape then "Joiner " else "Codepoint ") ++
      s!"{codeName found} not allowed at position {place} in " ++ Text.quote label
  | uncharted label place =>
    "Unknown directionality in label " ++ Text.quote label ++ s!" at position {place}"
  | neutralStart label =>
    "First codepoint in label " ++ Text.quote label ++ " must be directionality L, R or AL"
  | againstFlow rightToLeft place =>
    s!"Invalid direction for codepoint at position {place} in a " ++
      (if rightToLeft then "right-to-left" else "left-to-right") ++ " label"
  | mixedNumbers => "Can not mix numeral types in a right-to-left label"
  | looseEnd => "Label ends with illegal codepoint directionality"
  | emptyForm => "Malformed A-label, no Punycode eligible content found"
  | formEndsWithHyphen => "A-label must not end with a hyphen"
  | malformed => "Invalid A-label"
  | notCanonical => "A-label is not the canonical Punycode encoding of its U-label"
  | unnamed => "no such name"
  | tooLong => "Label too long"

end LabelFault

end Reversi
