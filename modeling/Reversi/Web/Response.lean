import Reversi.Room.Snapshot
import Reversi.Web.Complaint
import Reversi.Web.Json

/-!
# Reversi.Web.Response

Answers to clients.

* `Board.json`, `Snapshot.json`, `Rejection.json`: domain values as JSON.
* `Response`: a status code and a JSON value, a page, or the complaints about a request.
* `Response.head`: an answer of which only the head is sent.
-/

namespace Reversi

def Board.json (b : Board) : Json :=
  .arr (b.rows.map fun row => .arr (row.map fun c => .nat c.code))

def Score.json (s : Score) : Json := .obj [("black", .nat s.black), ("white", .nat s.white)]

def Square.json (s : Square) : Json := .arr [.nat s.row.val, .nat s.col.val]

def MoveRecord.json (m : MoveRecord) : Json :=
  .obj [("player", .nat m.side.code), ("r", .nat m.square.row.val), ("c", .nat m.square.col.val),
    ("flipped", .int m.flipped)]

/-- No turn is written as 0. -/
def Snapshot.json (s : Snapshot) : Json :=
  .obj [
    ("room_id", .int s.room),
    ("mode", .str s.mode.word),
    ("board", s.board.json),
    ("status", .str s.status.word),
    ("turn", .nat (s.turn.elim 0 Side.code)),
    ("note", .ofOption .str s.note),
    ("scores", s.board.score.json),
    ("seats", .arr (s.seats.map fun side => .str side.name)),
    ("legal_moves", .arr (s.legalMoves.map Square.json)),
    ("move_count", .nat s.moveCount),
    ("last_move", .ofOption MoveRecord.json s.lastMove)]

/-- The coordinates of an illegal placement are told as well. -/
def Rejection.json (e : Rejection) : Json :=
  let place :=
    match e.target with
    | some p => [("r", .int p.row), ("c", .int p.col)]
    | none => []
  .obj ([("type", .str e.kind.name), ("message", .str e.message)] ++ place)

inductive Content where
  | json (value : Json)
  | page (text : String)
  | complaints (items : List Complaint)
  /-- Said to be JSON, but left out. -/
  | omitted

structure Response where
  status : Nat
  content : Content

namespace Response

def ok (value : Json) : Response := ⟨200, .json value⟩

def detail (status : Nat) (value : Json) : Response := ⟨status, .json (.obj [("detail", value)])⟩

def invalid (items : List Complaint) : Response := ⟨422, .complaints items⟩

def redirect : Response := ⟨307, .page ""⟩

def isRedirect (r : Response) : Bool := r.status == redirect.status

def notFound : Response := detail 404 (.str "Not Found")

def methodNotAllowed : Response := detail 405 (.str "Method Not Allowed")

def unreadableBody : Response := detail 400 (.str "There was an error parsing the body")

def internalError : Response := ⟨500, .page "Internal Server Error"⟩

/-- A report fails when it would have to repeat what cannot be written. -/
def report (items : List Complaint) : Response :=
  if items.all Complaint.quotable then invalid items else internalError

/-- The answer without its content, which is still said to be of its type. -/
def head (r : Response) : Response :=
  match r.content with
  | .page _ => ⟨r.status, .page ""⟩
  | _ => ⟨r.status, .omitted⟩

/-- An answer to HEAD has no content. -/
def toMethod (method : List Glyph) (r : Response) : Response :=
  if method = Text.glyphs "HEAD" then r.head else r

end Response

end Reversi
