import Reversi.PlayerId
import Reversi.Settings
import Reversi.Web.Receipt

/-!
# Reversi.Main

The service on a terminal. Every line of standard input is a JSON object with the members
`method`, `path`, `query` (an object of strings) and `body` (a string); every line of standard
output is the answer. The journal goes to standard error, from the level that the environment
sets.
-/

namespace Reversi
namespace Main

/-- The members that a line gives; a missing one is empty. -/
def requestOf (members : List (List Glyph × Datum)) : Except RequestFault Request :=
  let text (name standard : String) : List Glyph :=
    match Datum.member? name members with
    | some (.text gs) => gs
    | _ => Text.glyphs standard
  let params : Target.Params :=
    match Datum.member? "query" members with
    | some (.record params) => params.map fun (name, value) => (name, value.plain)
    | _ => []
  let body : Option (List Glyph) := (Datum.member? "body" members).map Datum.plain
  Request.ofText (text "method" "GET") (text "path" "/") params body

def readRequest (line : String) : Except String Request :=
  match Datum.read line with
  | .ok (.record members) => (requestOf members).mapError RequestFault.message
  | _ => .error "There was an error parsing the request"

def contentView : Content → Json
  | .json value => value
  | .page text => .str text
  | .omitted => .null
  | .complaints items => .obj [("detail", .arr (items.map fun c => .arr (c.words.map .str)))]

def responseLine (r : Response) : String :=
  (Json.obj [("status", .nat r.status), ("body", contentView r.content)]).render

/-- The answer as a client can take it. -/
def received (r : Request) (answer : Response) : Response :=
  match r.receiptFault? answer with
  | none => answer
  | some f => .detail 400 (.str f.message)

def journalLine (e : Event) : String := e.level.word ++ ": " ++ e.message

partial def serve (ids : Nat → String) (threshold : Nat) (lobby : Lobby) : IO Unit := do
  let input ← IO.getStdin
  let line ← input.getLine
  if line.isEmpty then return
  match readRequest line with
  | .ok request =>
    let x := Service.handle ids lobby request
    for e in x.events do
      if threshold ≤ e.level.number then IO.eprintln (journalLine e)
    IO.println (responseLine (received request x.response))
    serve ids threshold x.lobby
  | .error message =>
    IO.println (responseLine (.detail 400 (.str message)))
    serve ids threshold lobby

def variableNames : List String :=
  ["OTHELLO_AI_DEPTH", "OTHELLO_HOST", "OTHELLO_PORT", "OTHELLO_LOG_LEVEL"]

/-- The variables that the settings read, looked up once. -/
def readEnvironment : IO (List (List Glyph × List Glyph)) :=
  variableNames.filterMapM fun name => do
    let value ← IO.getEnv name
    return value.map fun text => (Text.glyphs name, Text.glyphs text)

def readSettings (vars : List (List Glyph × List Glyph)) : Except SettingsFault (Launch × Int) := do
  let env ← Environment.ofList vars
  return (← Settings.launch env, ← Settings.engineDepth env)

def run : IO UInt32 := do
  match readSettings (← readEnvironment) with
  | .ok (launch, depth) =>
    let seed ← IO.rand 0 0x3fffffffffffffff
    serve (PlayerId.issue seed) launch.threshold (Lobby.empty depth)
    return 0
  | .error f =>
    IO.eprintln f.message
    return 1

end Main
end Reversi

def main : IO UInt32 := Reversi.Main.run
