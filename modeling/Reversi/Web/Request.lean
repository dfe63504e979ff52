import Reversi.Room.Status
import Reversi.Web.Field
import Reversi.Web.Reference
import Reversi.Web.Target

/-!
# Reversi.Web.Request

Requests as they arrive.

* `Request`: the address that it is sent to, method, target and body.
* `Request.ofText`: the request that a client writes, or `RequestFault` why it cannot be sent.
* `Route`: the places that can be asked for, and the methods that each one takes.
* `Route.isSlashed`: paths that lead to a route without the slashes at their end.
* `Request.room`, `Request.mode`: the parameters that routes share.
-/

namespace Reversi

structure Request where
  address : Address
  method : List Glyph
  target : Target
  body : Option String

inductive RequestFault where
  | address (fault : AddressFault)
  | target (fault : TargetFault)
  | unencodable (fault : Text.Unencodable)
  | label (fault : LabelFault)
  | unknownScheme (name : String)
  deriving DecidableEq

def RequestFault.message : RequestFault → String
  | address fault => fault.message
  | target fault => fault.message
  | unencodable fault => fault.message
  | label fault => fault.message
  | unknownScheme name => Text.quoted name

inductive Route where
  | page
  | health
  | join
  | move
  | state
  | reference (r : Reference)
  deriving DecidableEq

namespace Route

def path : Route → String
  | page => "/"
  | health => "/health"
  | join => "/join"
  | move => "/move"
  | state => "/state"
  | reference r => r.path

def all : List Route := [page, health, join, move, state] ++ Reference.all.map reference

/-- One line break at the end of a path does not count. -/
def ofPath? (path : String) : Option Route :=
  all.find? fun route => path = route.path ∨ path = route.path ++ "\n"

def isSlashed (path : String) : Bool :=
  path.endsWith "/" && (ofPath? (String.ofList (Text.trimEnd (· == '/') path.toList))).isSome

def methods : Route → List String
  | page => ["GET"]
  | health => ["GET"]
  | join => ["POST"]
  | move => ["POST"]
  | state => ["GET"]
  | reference _ => ["GET", "HEAD"]

end Route

namespace Request

/-! ## Sending -/

def schemes : List String := ["http", "https"]

/-- A place that is told in full has to be found. -/
def placeFault? (a : Address) : Option RequestFault :=
  if !a.isAbsolute then none
  else
    (a.labelFault?.map .label).or <|
    (a.zoneFault?.map .unencodable).or <|
    if schemes.contains a.schemeName then none else some (.unknownScheme a.schemeName)

def bodyFault? (body : Option (List Glyph)) : Option RequestFault :=
  (body.bind (Text.Unencodable.first? .utf8)).map .unencodable

def ofText (method path : List Glyph) (params : Target.Params) (body : Option (List Glyph)) :
    Except RequestFault Request :=
  match Address.ofText path with
  | .error f => .error (.address f)
  | .ok a =>
    match Target.ofAddress a params, (bodyFault? body).or (placeFault? a) with
    | .error f, _ => .error (.target f)
    | .ok _, some f => .error f
    | .ok target, none => .ok ⟨a, method, target, body.bind Text.string?⟩

/-! ## Parameters -/

/-- The last value of a key. -/
def param? (r : Request) (key : String) : Option String :=
  r.target.params.foldl (fun found p => if p.1 = key then some p.2 else found) none

def integerParam? (r : Request) (key : String) : Checked (Option Int) :=
  match r.param? key with
  | none => .ok none
  | some text =>
    match Field.wholeNumber text with
    | .ok n => .ok (some n)
    | .error k => .one ⟨k, .query, some key, true⟩

def defaultRoom : Int := 1

def room (r : Request) : Checked Int :=
  match r.integerParam? "room" with
  | .error es => .error es
  | .ok none => .ok defaultRoom
  | .ok (some n) => if n < 0 then .one ⟨.greaterThanEqual, .query, some "room", true⟩ else .ok n

def mode (r : Request) : Checked Mode :=
  match r.param? "mode" with
  | none => .ok .people
  | some word =>
    match Mode.ofWord? word with
    | some m => .ok m
    | none => .one ⟨.enumMember, .query, some "mode", true⟩

end Request

end Reversi
