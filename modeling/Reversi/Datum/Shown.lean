import Reversi.Binary64.Shortest
import Reversi.Datum.Basic
import Reversi.Text.Quoted

/-!
# Reversi.Datum.Shown

Data as messages show them.

* `Datum.shown`: with every text in quotes.
* `Datum.plain`: a text as it is, everything else as it is shown.
* `Datum.joined`: the text of a message that is made of several data.
-/

namespace Reversi
namespace Datum

mutual

def shown : Datum → String
  | nothing => "None"
  | flag true => "True"
  | flag false => "False"
  | number n => toString n
  | real x => Binary64.text x
  | text gs => Text.quote gs
  | list items => "[" ++ shownItems items ++ "]"
  | record members => "\x7b" ++ shownMembers members ++ "\x7d"

def shownItems : List Datum → String
  | [] => ""
  | [d] => shown d
  | d :: ds => shown d ++ ", " ++ shownItems ds

def shownMembers : List (List Glyph × Datum) → String
  | [] => ""
  | [(name, d)] => Text.quote name ++ ": " ++ shown d
  | (name, d) :: ms => Text.quote name ++ ": " ++ shown d ++ ", " ++ shownMembers ms

end

def plain : Datum → List Glyph
  | text gs => gs
  | d => Text.glyphs d.shown

/-- One datum stands for itself, several ones are listed. -/
def joined : List Datum → List Glyph
  | [] => []
  | [d] => plain d
  | ds => Text.glyphs ("(" ++ shownItems ds ++ ")")

end Datum
end Reversi
