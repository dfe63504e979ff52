import Reversi.Web.Request
import Reversi.Web.Response

/-!
# Reversi.Web.Receipt

What a client makes of an answer. It notes the place that the answer comes from, and it gets ready
to follow a redirect.

* `Request.location`: where a redirect leads.
* `ReceiptFault`: why a client cannot take an answer.
* `Request.receiptFault?`: what is wrong with an answer for the client that sent the request.
-/

namespace Reversi

inductive ReceiptFault where
  | brackets
  | noNumbers (host : List Glyph)
  | location (fault : AddressFault)
  /-- A fragment that cannot go along to another place. -/
  | fragment (found : Glyph) (position : Nat)
  deriving DecidableEq

def ReceiptFault.message : ReceiptFault → String
  | brackets => "Invalid IPv6 URL"
  | noNumbers host => Text.quote host ++ " does not appear to be an IPv4 or IPv6 address"
  | location fault => "Invalid URL in location header: " ++ fault.message ++ "."
  | fragment found position =>
    "Invalid non-printable ASCII character in URL fragment component, " ++ Text.quote [found] ++
      s!" at position {position}."

namespace Address

/-- The first closing bracket ends a host between brackets, and only a port may follow it. -/
def bracketFault? (a : Address) : Option ReceiptFault :=
  if !inBrackets a.host then none
  else
    let (numbers, rest) := cut ']' (a.host.drop 1)
    if rest.head?.any (· != .char ':') then some .brackets
    else if Host.isEightNumbers (Text.shapes numbers) then none
    else some (.noNumbers numbers)

/-- A fragment is looked at as it is meant. -/
def fragmentFault? (a : Address) : Option ReceiptFault :=
  let meant := Escape.undo (String.ofList (Text.shapes a.fragment))
  (unprintable? (Text.glyphs meant)).map fun (g, i) => .fragment g i

end Address

namespace Request

/-- The same place and parameters, without the slashes at the end of the path. -/
def location (r : Request) : List Char :=
  let path := Text.trimEnd (· == '/') r.target.path.toList
  let query := r.target.query
  Escape.escape Escape.isAddressChar
    (r.address.origin ++ path ++ if query.isEmpty then [] else '?' :: query)

/-- The fragment goes along if the place is told in full. -/
def redirectFault? (r : Request) : Option ReceiptFault :=
  match Address.ofText (r.location.map .char) with
  | .error f => some (.location f)
  | .ok _ => if r.address.isAbsolute then r.address.fragmentFault? else none

/-- The request has done its work, whatever comes of the answer. -/
def receiptFault? (r : Request) (answer : Response) : Option ReceiptFault :=
  let noted := if r.address.isAbsolute then r.address.bracketFault? else none
  noted.or (if answer.isRedirect then r.redirectFault? else none)

end Request

end Reversi
