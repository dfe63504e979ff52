import Reversi.Datum.Reader
import Reversi.Text.Letters
import Reversi.Web.ReferencePage
import Reversi.Web.Request
import Reversi.Web.Response
import Reversi.Web.Schema

/-!
# Reversi.Web.Call

What a request asks for, once its form was checked.

* `JoinForm`, `MoveForm`: what the routes need, or all complaints at once.
* `Call`: a well-formed request, or the answer to one that is not.
* `Call.ofRequest`: the check, which looks at no room.
-/

namespace Reversi

structure JoinForm where
  room : Int
  mode : Mode
  depth : Option Int

def JoinForm.ofRequest (r : Request) : Checked JoinForm :=
  (Checked.both r.room (.both r.mode (r.integerParam? "depth"))).map
    fun (room, mode, depth) => ⟨room, mode, depth⟩

structure MoveForm where
  room : Int
  square : Square
  player : String

namespace MoveForm

/-- A body is a record, or there is a complaint about it as a whole. -/
def members : Option Datum → Checked (List (List Glyph × Datum))
  | none => .one ⟨.missing, .body, none, true⟩
  | some (.record members) => .ok members
  | some x => .one ⟨.objectType, .body, none, x.quotable⟩

def ofMembers (members : List (List Glyph × Datum)) : Checked (Square × String) :=
  (Checked.both (Field.named members "r" "row" Field.coordinate)
    (.both (Field.named members "c" "col" Field.coordinate)
      (Field.named members "player" "player" Field.playerName))).map
    fun (row, col, player) => (⟨row, col⟩, player)

def ofRequest (r : Request) (body : Option Datum) : Checked MoveForm :=
  let placement : Checked (Square × String) :=
    match members body with
    | .error es => .error es
    | .ok members => ofMembers members
  (Checked.both r.room placement).map fun (room, square, player) => ⟨room, square, player⟩

end MoveForm

/-- A request that is not well formed is `refused`, and a question about the service itself gets
a `fixed` answer, whatever the rooms hold. -/
inductive Call where
  | page
  | health
  | join (form : JoinForm)
  | move (form : MoveForm)
  | state (room : Int)
  | fixed (response : Response)
  | refused (response : Response)

namespace Call

def ofChecked {α : Type} (make : α → Call) : Checked α → Call
  | .ok a => make a
  | .error items => .refused (.report items)

/-- An empty body counts as none. A body that cannot be read is reported alone. -/
def readBody (body : Option String) : Except Response (Option Datum) :=
  match body with
  | none => .ok none
  | some text =>
    if text.isEmpty then .ok none
    else
      match Datum.read text with
      | .ok x => .ok (some x)
      | .error .malformed => .error (.invalid [⟨.jsonInvalid, .body, none, true⟩])
      | .error _ => .error .unreadableBody

def ofReference (asked : Reference) : Response :=
  match asked.page? with
  | some text => ⟨200, .page text⟩
  | none => .ok Schema.document

def ofRoute (r : Request) : Route → Call
  | .page => page
  | .health => health
  | .join => ofChecked join (JoinForm.ofRequest r)
  | .state => ofChecked state r.room
  | .move =>
    match readBody r.body with
    | .error response => refused response
    | .ok body => ofChecked move (MoveForm.ofRequest r body)
  | .reference asked => fixed ((ofReference asked).toMethod (Text.upper r.method))

/-- Methods may be written in small letters. -/
def ofRequest (r : Request) : Call :=
  let method := Text.upper r.method
  let path := r.target.path
  match Route.ofPath? path with
  | none =>
    let answer := if Route.isSlashed path then Response.redirect else .notFound
    refused (answer.toMethod method)
  | some route =>
    if (route.methods.map Text.glyphs).contains method then ofRoute r route
    else refused (Response.methodNotAllowed.toMethod method)

end Call

end Reversi
