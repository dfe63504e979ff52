import Reversi.Web.Host
import Reversi.Web.Host.Label

/-!
# Reversi.Web.Host.Name

Host names, which are labels with points between them.

* `Host.labels`: the labels of a name.
* `Host.ascii`: a name of any script in ASCII, or `NameFault` why there is no such one.
* `Host.writtenFault?`: what is wrong with the labels of a name in ASCII.
-/

namespace Reversi

inductive NameFault where
  | empty
  | label (fault : LabelFault)
  | tooLong
  deriving DecidableEq

namespace Host

/-- Any of four characters is a point. -/
def isPoint (c : Char) : Bool := [0x2e, 0x3002, 0xff0e, 0xff61].contains c.toNat

/-- One point may stand at the end. -/
def labels (name : List Glyph) : List (List Glyph) :=
  let found := pieces (fun g => g.char?.any isPoint) name
  if found.getLast? = some [] then found.dropLast else found

def maxLabelLength : Nat := 63

def isAscii (label : List Glyph) : Bool := label.all fun g => g.code < 0x80

def written (label : List Glyph) : List Char :=
  if isAscii label then Text.shapes label
  else Label.formMark ++ Bootstring.encode (label.map Glyph.code)

/-- A label is never longer than its written form. -/
def isLong (label : List Glyph) : Bool :=
  maxLabelLength < label.length || maxLabelLength < (written label).length

def asciiLabel (label : List Glyph) : Except LabelFault (List Char) :=
  let fault :=
    if isAscii label then Label.asciiFault? (Text.shapes label) else Label.fault? label
  match fault with
  | some f => .error f
  | none => if isLong label then .error .tooLong else .ok (written label)

def maxLength : Nat := 253

/-- The last point does not count against the limit. -/
def ascii (name : List Glyph) : Except NameFault (List Char) :=
  match (labels name).mapM asciiLabel with
  | .error f => .error (.label f)
  | .ok [] => .error .empty
  | .ok found =>
    let cs := List.intercalate ['.'] found
    if maxLength < cs.length then .error .tooLong
    else .ok (if (name.getLast?.bind Glyph.char?).any isPoint then cs ++ ['.'] else cs)

def writtenFault? (name : List Char) : Option LabelFault :=
  (labels (name.map .char)).findSome? fun label => Label.asciiFault? (Text.shapes label)

end Host
end Reversi
