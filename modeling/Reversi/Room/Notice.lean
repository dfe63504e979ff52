import Reversi.Datum.Shown
import Reversi.Room.Rejection

/-!
# Reversi.Room.Notice

Rejections that are told in the words of others, with data of any kind.

* `Notice`: a kind of rejection, what it says and what it says it about.
* `Notice.ofData`: the notice that a list of data makes.
* `Miscount`: data that are too many or too few for a kind of notice.
-/

namespace Reversi

structure Notice where
  kind : RejectionKind
  message : List Glyph
  target : Option (Datum × Datum)

structure Miscount where
  kind : RejectionKind
  found : Nat
  deriving DecidableEq

namespace RejectionKind

/-- What must be given, and how much may be given on top of it. Other kinds take any data. -/
def parts? : RejectionKind → Option (List String × Nat)
  | roomFull => some (["room_id"], 0)
  | gameOver => some ([], 1)
  | notStarted => some ([], 1)
  | illegalMove => some (["row", "col"], 1)
  | unknownRoom => some (["room_id"], 0)
  | _ => none

end RejectionKind

namespace Miscount

def rangeText (least extra : Nat) : String :=
  if extra = 0 then toString (least + 1) else s!"from {least + 1} to {least + extra + 1}"

/-- The notice itself is counted as well. -/
def message (m : Miscount) : String :=
  let (needed, extra) := m.kind.parts?.getD ([], 0)
  let call := m.kind.name ++ ".__init__() "
  if needed.length ≤ m.found then
    call ++ s!"takes {rangeText needed.length extra} positional arguments but " ++
      s!"{m.found + 1} were given"
  else
    let missing := (needed.drop m.found).map Text.quoted
    let plural := if missing.length = 1 then "" else "s"
    call ++ s!"missing {missing.length} required positional argument{plural}: " ++
      String.intercalate " and " missing

end Miscount

namespace Notice

open Text

/-- A datum with words before and behind it. -/
def between (words : String × String) (d : Datum) : List Glyph :=
  glyphs words.1 ++ d.plain ++ glyphs words.2

/-- A reason that says nothing is not written. -/
def illegalMoveText (row col : Datum) (reason : Option Datum) : List Glyph :=
  let place := glyphs Rejection.illegalMoveWords ++
    between ("(", ", ") row ++ between ("", ")") col
  match reason.filter fun d => !d.isEmpty with
  | some d => place ++ glyphs ": " ++ d.plain
  | none => place

def textOf (kind : RejectionKind) (data : List Datum) : List Glyph :=
  match kind, data with
  | .roomFull, [room] => between Rejection.roomFullWords room
  | .unknownRoom, [room] => between Rejection.unknownRoomWords room
  | .gameOver, [] => glyphs Rejection.gameOverText
  | .notStarted, [] => glyphs Rejection.notStartedText
  | .illegalMove, row :: col :: reason => illegalMoveText row col reason.head?
  | _, data => Datum.joined data

def targetOf (kind : RejectionKind) (data : List Datum) : Option (Datum × Datum) :=
  match kind, data with
  | .illegalMove, row :: col :: _ => some (row, col)
  | _, _ => none

def isComplete (kind : RejectionKind) (found : Nat) : Bool :=
  kind.parts?.all fun (needed, extra) => needed.length ≤ found && found ≤ needed.length + extra

def ofData (kind : RejectionKind) (data : List Datum) : Except Miscount Notice :=
  if isComplete kind data.length then .ok ⟨kind, textOf kind data, targetOf kind data⟩
  else .error ⟨kind, data.length⟩

end Notice

end Reversi
