import Reversi.Text.Digits
import Reversi.Text.Encoding

/-!
# Reversi.Web.Escape

Escapes in addresses: a percent sign and two hexadecimal digits stand for a byte.

* `Escape.isUserChar`, `isHostChar`, `isPathChar`, `isQueryChar`, `isFragmentChar`, `isParamChar`:
  the characters that the parts of an address need not escape.
* `Escape.isAddressChar`: the same for an address as a whole.
* `Escape.escape`: text with escapes for all other characters.
* `Escape.undo`: text with its escapes resolved.
-/

namespace Reversi
namespace Escape

open Text

/-! ## Escaping -/

/-- The characters of ASCII that can be seen. -/
def isGraphic (c : Char) : Bool := 0x20 < c.toNat && c.toNat < 0x7f

def isFragmentChar (c : Char) : Bool := isGraphic c && !(['"', '<', '>', '\x60'].contains c)

def isQueryChar (c : Char) : Bool := isGraphic c && !(['"', '#', '<', '>'].contains c)

def isPathChar (c : Char) : Bool := isQueryChar c && !(['?', '\x60', '\x7b', '\x7d'].contains c)

def isUserChar (c : Char) : Bool :=
  isPathChar c && !(['/', ';', '=', '@', '[', '\\', ']', '^', '|'].contains c)

def isHostChar (c : Char) : Bool :=
  isGraphic c && !(['#', '/', ':', '<', '>', '?', '@', '[', ']', '^'].contains c)

def isParamChar (c : Char) : Bool := c.isAlphanum || ['_', '.', '-', '~'].contains c

/-- The marks between the parts are kept. -/
def isAddressChar (c : Char) : Bool :=
  isGraphic c && !(['"', '<', '>', '\\', '^', '\x60', '\x7b', '|', '\x7d'].contains c)

def hexDigit (n : Nat) : Char := (Nat.digitChar n).toUpper

/-- A percent sign and two digits for every byte. -/
def ofChar (c : Char) : List Char :=
  (String.utf8EncodeChar c).flatMap fun b =>
    ['%', hexDigit (b.toNat / 16), hexDigit (b.toNat % 16)]

def escape (isSafe : Char → Bool) (cs : List Char) : List Char :=
  cs.flatMap fun c => if isSafe c then [c] else ofChar c

/-- A space in a parameter is written as a plus sign. -/
def escapeParam (cs : List Char) : List Char :=
  cs.flatMap fun c => if c = ' ' then ['+'] else if isParamChar c then [c] else ofChar c

/-! ## Resolving -/

def bytes : List Char → List UInt8
  | '%' :: a :: b :: cs =>
    match hexValue? a, hexValue? b with
    | some a, some b => UInt8.ofNat (16 * a + b) :: bytes cs
    | _, _ => 37 :: bytes (a :: b :: cs)
  | c :: cs => String.utf8EncodeChar c ++ bytes cs
  | [] => []

def undo (s : String) : String := Text.ofBytes (bytes s.toList)

end Escape
end Reversi
