import Reversi.Text.Glyph
import Reversi.Text.Printable

/-!
# Reversi.Text.Quoted

Text as messages quote it.

* `quoteMark`: a single quote, unless the text holds one and holds no double quote.
* `escape`: one glyph inside the quotes.
* `quote`, `quoted`: glyphs, or a whole string, between quotes.
-/

namespace Reversi
namespace Text

def hexDigit (n : Nat) : Char := if n < 10 then Char.ofNat (48 + n) else Char.ofNat (87 + n)

/-- The last `width` hexadecimal digits of `n`, in small letters. -/
def hex (width n : Nat) : List Char :=
  (List.range width).reverse.map fun i => hexDigit (n >>> (4 * i) % 16)

def quoteMark (gs : List Glyph) : Char :=
  if gs.contains (.char '\'') && !gs.contains (.char '"') then '"' else '\''

/-- Two, four or eight digits, as few as the code point allows. -/
def codePoint (n : Nat) : List Char :=
  if n < 0x100 then '\\' :: 'x' :: hex 2 n
  else if n < 0x10000 then '\\' :: 'u' :: hex 4 n
  else '\\' :: 'U' :: hex 8 n

def escape (mark : Char) : Glyph → List Char
  | .half n => codePoint n
  | .char c =>
    if c = mark ∨ c = '\\' then ['\\', c]
    else if c = '\n' then ['\\', 'n']
    else if c = '\r' then ['\\', 'r']
    else if c = '\t' then ['\\', 't']
    else if isPrintable c then [c]
    else codePoint c.toNat

def quote (gs : List Glyph) : String :=
  let mark := quoteMark gs
  String.ofList (mark :: (gs.flatMap (escape mark) ++ [mark]))

def quoted (s : String) : String := quote (glyphs s)

end Text
end Reversi
