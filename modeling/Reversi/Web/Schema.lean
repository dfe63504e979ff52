import Reversi.Room.Status
import Reversi.Web.Json
import Reversi.Web.ReferencePage

/-!
# Reversi.Web.Schema

The description of the service for programs that write clients, as an OpenAPI document.

* `Schema.Parameter`: a parameter of a call.
* `Schema.operation`: what a call takes and what it answers.
* `Schema.document`: the whole description.
-/

namespace Reversi
namespace Schema

def reference (name : String) : Json := .obj [("$ref", .str ("#/components/schemas/" ++ name))]

/-- A schema of a type, with a title and whatever else is said about it. -/
def typed (type title : String) (more : List (String × Json)) : Json :=
  .obj ([("type", .str type), ("title", .str title)] ++ more)

def record (title : String) (required : List String) (members : List (String × Json))
    (more : List (String × Json)) : Json :=
  typed "object" title
    ([("properties", .obj members), ("required", .arr (required.map .str))] ++ more)

def content (type : String) (schema : Json) : Json :=
  .obj [(type, .obj [("schema", schema)])]

def jsonContent (schema : Json) : Json := content "application/json" schema

structure Parameter where
  name : String
  schema : Json

namespace Parameter

def room : Parameter :=
  ⟨"room", typed "integer" "Room" [("minimum", .nat 0), ("default", .nat 1)]⟩

def mode : Parameter :=
  ⟨"mode", .obj [("$ref", .str "#/components/schemas/Mode"), ("default", .str Mode.people.word)]⟩

def depth : Parameter :=
  ⟨"depth", .obj [
    ("anyOf", .arr [.obj [("type", .str "integer")], .obj [("type", .str "null")]]),
    ("title", .str "Depth")]⟩

def json (p : Parameter) : Json :=
  .obj [("name", .str p.name), ("in", .str "query"), ("required", .bool false),
    ("schema", p.schema)]

end Parameter

/-! ## Calls -/

def success (content : Json) : String × Json :=
  ("200", .obj [("description", .str "Successful Response"), ("content", content)])

def failure : String × Json :=
  ("422", .obj [("description", .str "Validation Error"),
    ("content", jsonContent (reference "HTTPValidationError"))])

/-- An answer of which only the type is told. -/
def openRecord (title : String) : Json :=
  jsonContent (typed "object" title [("additionalProperties", .bool true)])

/-- Only calls that take something can fail. -/
def operation (method summary id : String) (parameters : List Parameter) (body : Option Json)
    (answer : Json) : Json :=
  let parameters :=
    if parameters.isEmpty then [] else [("parameters", .arr (parameters.map Parameter.json))]
  let request :=
    match body with
    | none => []
    | some schema =>
      [("requestBody", .obj [("content", jsonContent schema), ("required", .bool true)])]
  let failures := if parameters.isEmpty then [] else [failure]
  .obj [(method, .obj ([("summary", .str summary), ("operationId", .str id)] ++ parameters ++
    request ++ [("responses", .obj (success answer :: failures))]))]

def paths : Json :=
  .obj [
    ("/join", operation "post" "Join" "join_join_post" [.room, .mode, .depth] none
      (openRecord "Response Join Join Post")),
    ("/move", operation "post" "Move" "move_move_post" [.room] (some (reference "MoveRequest"))
      (openRecord "Response Move Move Post")),
    ("/state", operation "get" "State" "state_state_get" [.room] none
      (openRecord "Response State State Get")),
    ("/health", operation "get" "Health" "health_health_get" [] none
      (openRecord "Response Health Health Get")),
    ("/", operation "get" "Index" "index__get" [] none
      (content "text/html" (.obj [("type", .str "string")])))]

/-! ## Types -/

def coordinate (title : String) : Json :=
  typed "integer" title [("maximum", .nat 7), ("minimum", .nat 0)]

def moveRequest : Json :=
  record "MoveRequest" ["r", "c", "player"]
    [("r", coordinate "R"), ("c", coordinate "C"),
      ("player", typed "string" "Player" [("minLength", .nat 1)])]
    [("description", .str "Request payload for placing a disc in a room.")]

def mode : Json :=
  typed "string" "Mode" [("enum", .arr [.str Mode.people.word, .str Mode.engine.word])]

def validationErrors : Json :=
  .obj [("type", .str "object"), ("title", .str "HTTPValidationError"),
    ("properties", .obj [("detail",
      typed "array" "Detail" [("items", reference "ValidationError")])])]

def validationError : Json :=
  let part : Json :=
    .obj [("anyOf", .arr [.obj [("type", .str "string")], .obj [("type", .str "integer")]])]
  record "ValidationError" ["loc", "msg", "type"]
    [("loc", typed "array" "Location" [("items", part)]), ("msg", typed "string" "Message" []),
      ("type", typed "string" "Error Type" []), ("input", .obj [("title", .str "Input")]),
      ("ctx", typed "object" "Context" [])]
    []

def document : Json :=
  .obj [
    ("openapi", .str "3.1.0"),
    ("info", .obj [("title", .str Reference.title),
      ("description", .str "Room-based Othello played in the browser"),
      ("version", .str "0.1.0")]),
    ("paths", paths),
    ("components", .obj [("schemas", .obj [
      ("HTTPValidationError", validationErrors),
      ("Mode", mode),
      ("MoveRequest", moveRequest),
      ("ValidationError", validationError)])])]

end Schema
end Reversi
