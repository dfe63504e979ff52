import Reversi.Text.Encoding
import Reversi.Text.Letters
import Reversi.Text.Numeral
import Reversi.Web.Escape
import Reversi.Web.Host.Name

/-!
# Reversi.Web.Address

Addresses as people write them: a scheme, a host with what stands around it, a path, a query and
a fragment.

* `Address`: the parts.
* `Address.dropDots`: a path without segments that stand for a place near by.
* `Address.split`: the parts of any text.
* `Address.ofText`: the parts, or `AddressFault` why the text is no address.
* `Address.isAbsolute`: addresses that tell the place in full.
* `Address.place`, `Address.origin`, `Address.authority`: host and port as they are sent, alone,
  with the scheme and with the user.
-/

namespace Reversi

/-- A part that is missing is empty. -/
structure Address where
  scheme : List Glyph
  user : List Glyph
  host : List Glyph
  port : List Glyph
  path : List Glyph
  query : List Glyph
  fragment : List Glyph
  deriving DecidableEq

inductive AddressFault where
  | tooLong
  | unprintable (found : Glyph) (position : Nat)
  | unencodable (fault : Text.Unencodable)
  | badNumbers (version : Nat) (host : List Glyph)
  | badName (host : List Glyph)
  /-- A host whose labels cannot be checked. -/
  | unnamed
  | badPort (port : List Glyph)
  | doubleSlash
  | leadingColon
  deriving DecidableEq

def AddressFault.message : AddressFault → String
  | tooLong => "URL too long"
  | unprintable found position =>
    "Invalid non-printable ASCII character in URL, " ++ Text.quote [found] ++
      s!" at position {position}."
  | unencodable fault => fault.message
  | badNumbers version host => s!"Invalid IPv{version} address: " ++ Text.quote host
  | badName host => "Invalid IDNA hostname: " ++ Text.quote host
  | unnamed => LabelFault.unnamed.message
  | badPort port => "Invalid port: " ++ Text.quote port
  | doubleSlash => "Relative URLs cannot have a path starting with '//'"
  | leadingColon => "Relative URLs cannot have a path starting with ':'"

namespace Address

/-! ## Parts -/

def isSchemeChar (c : Char) : Bool := c.isAlphanum || c == '+' || c == '.' || c == '-'

/-- What stands before the first mark, and what stands after it. -/
def cut (mark : Char) (gs : List Glyph) : List Glyph × List Glyph :=
  (gs.takeWhile (· != .char mark), (gs.dropWhile (· != .char mark)).drop 1)

/-- What stands after the last mark. -/
def behind (mark : Char) (gs : List Glyph) : List Glyph :=
  (gs.reverse.takeWhile (· != .char mark)).reverse

/-- The scheme in front of a colon, and what follows the colon. A scheme starts with a letter, or
is empty. -/
def splitScheme (gs : List Glyph) : List Glyph × List Glyph :=
  let inScheme (g : Glyph) : Bool := g.char?.any isSchemeChar
  let name := gs.takeWhile inScheme
  match gs.dropWhile inScheme with
  | .char ':' :: rest => if name.head?.all (·.shape.isAlpha) then (name, rest) else ([], gs)
  | _ => ([], gs)

/-- The authority between two slashes and the next one, and the path. -/
def splitAuthority : List Glyph → List Glyph × List Glyph
  | .char '/' :: .char '/' :: rest =>
    (rest.takeWhile (· != .char '/'), rest.dropWhile (· != .char '/'))
  | gs => ([], gs)

/-- What stands before the last at sign, and what stands after it. -/
def splitUser (gs : List Glyph) : List Glyph × List Glyph :=
  let rest := behind '@' gs
  (gs.take (gs.length - rest.length - 1), rest)

/-- The host before a colon, and the port after it. A host between brackets may hold colons. -/
def splitPort (gs : List Glyph) : List Glyph × List Glyph :=
  if gs.head? = some (.char '[') ∧ gs.contains (.char ']') then
    let rest := behind ']' gs
    let port := if rest.head? = some (.char ':') then rest.drop 1 else rest
    (gs.take (gs.length - rest.length), port)
  else cut ':' gs

/-- The segments of a path, in reverse, with one more segment. A dot is the place itself, two
dots are the place above it. -/
def addSegment (kept : List (List Glyph)) (segment : List Glyph) : List (List Glyph) :=
  if segment = [.char '.'] then kept
  else if segment = [.char '.', .char '.'] then
    match kept with
    | [] => []
    | [[]] => [[]]
    | _ :: above => above
  else segment :: kept

def dropDots (path : List Glyph) : List Glyph :=
  let segments := (Host.pieces (· == .char '/') path).foldl addSegment []
  List.intercalate [.char '/'] segments.reverse

/-- Only a path is given. -/
def isBare (a : Address) : Bool :=
  a.scheme.isEmpty && a.user.isEmpty && a.host.isEmpty && a.port.isEmpty

def isAbsolute (a : Address) : Bool := !a.scheme.isEmpty && !a.host.isEmpty

/-- A path that stands alone is kept as it is. -/
def split (gs : List Glyph) : Address :=
  let (gs, fragment) := cut '#' gs
  let (gs, query) := cut '?' gs
  let (scheme, rest) := splitScheme gs
  let (authority, path) := splitAuthority rest
  let (user, rest) := splitUser authority
  let (host, port) := splitPort rest
  let a : Address := ⟨scheme, user, host, port, path, query, fragment⟩
  if a.isBare then a else { a with path := dropDots path }

/-! ## Faults -/

def maxLength : Nat := 65536

/-- A host between brackets is given in numbers. -/
def inBrackets (host : List Glyph) : Bool :=
  host.head? = some (.char '[') ∧ host.getLast? = some (.char ']')

/-- A host that looks like one in numbers must be one. -/
def hostFault? (host : List Glyph) : Option AddressFault :=
  let cs := Text.shapes host
  if Host.looksNumeric cs then
    if Host.isFourNumbers cs then none else some (.badNumbers 4 host)
  else if inBrackets host then
    if Host.isEightNumbers (cs.drop 1).dropLast then none else some (.badNumbers 6 host)
  else if Host.isAscii host then none
  else
    match Host.ascii (Text.lower host) with
    | .ok _ => none
    | .error (.label .unnamed) => some .unnamed
    | .error _ => some (.badName host)

def portFault? (port : List Glyph) : Option AddressFault :=
  match port, Text.readInt port with
  | _ :: _, .error _ => some (.badPort port)
  | _, _ => none

/-- A path that stands alone must not look like something else. -/
def pathFault? (a : Address) : Option AddressFault :=
  match a.isBare, a.path with
  | true, .char '/' :: .char '/' :: _ => some .doubleSlash
  | true, .char ':' :: _ => some .leadingColon
  | _, _ => none

/-- Characters are escaped one by one. -/
def escapeFault? (gs : List Glyph) : Option AddressFault :=
  (gs.findSome? fun g => Text.Unencodable.first? .utf8 [g]).map .unencodable

def fault? (a : Address) : Option AddressFault :=
  [escapeFault? a.user, hostFault? a.host, portFault? a.port, pathFault? a, escapeFault? a.path,
    escapeFault? a.query, escapeFault? a.fragment].findSome? id

/-- The first character of ASCII that cannot be shown, and its place. -/
def unprintable? (gs : List Glyph) : Option (Glyph × Nat) :=
  gs.zipIdx.find? fun p => p.1.code < 0x20 || p.1.code == 0x7f

def ofText (gs : List Glyph) : Except AddressFault Address :=
  let a := split gs
  if maxLength < gs.length then .error .tooLong
  else
    match ((unprintable? gs).map fun (g, i) => .unprintable g i).or a.fault? with
    | some f => .error f
    | none => .ok a

/-! ## Places -/

def schemeName (a : Address) : String := String.ofList ((Text.shapes a.scheme).map Char.toLower)

/-- A host as it is sent: in small letters of ASCII. Between brackets it stays as it is. -/
def sentHost (host : List Glyph) : List Char :=
  if inBrackets host then Text.shapes host
  else if Host.isAscii host then
    Escape.escape Escape.isHostChar ((Text.shapes host).map Char.toLower)
  else (Host.ascii (Text.lower host)).toOption.getD []

def usualPort? : String → Option Int
  | "ftp" => some 21
  | "http" => some 80
  | "ws" => some 80
  | "https" => some 443
  | "wss" => some 443
  | _ => none

/-- The usual port of a scheme is not told. -/
def sentPort (a : Address) : List Char :=
  match Text.readInt a.port with
  | .ok n =>
    if (Text.string? a.scheme).bind usualPort? = some n then [] else ':' :: (toString n).toList
  | .error _ => []

/-- Host and port. -/
def place (a : Address) : List Char := sentHost a.host ++ a.sentPort

/-- Where the service is looked for if no other place is told. -/
def standardOrigin : String := "http://testserver"

def origin (a : Address) : List Char :=
  if a.isAbsolute then a.schemeName.toList ++ "://".toList ++ a.place else standardOrigin.toList

/-- An at sign follows the user. -/
def authority (a : Address) : List Char :=
  let user := Escape.escape Escape.isUserChar (Text.shapes a.user)
  (if user.isEmpty then [] else user ++ ['@']) ++ a.place

/-- What is wrong with the labels of a host that starts with the mark of a written form. -/
def labelFault? (a : Address) : Option LabelFault :=
  let name := (sentHost a.host).map Char.toLower
  if Host.isAscii a.host && (Label.written? name).isSome then Host.writtenFault? name else none

/-- The zone of a host in numbers is not escaped. -/
def zoneFault? (a : Address) : Option Text.Unencodable :=
  if inBrackets a.host then Text.Unencodable.first? .ascii a.host else none

end Address

end Reversi
