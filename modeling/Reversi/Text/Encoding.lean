import Reversi.Text.Quoted

/-!
# Reversi.Text.Encoding

The encodings in which a text may be sent.

* `Glyph.ofCode`: the glyph of a code unit that has no partner.
* `Encoding.ofBytes`: the encoding of a text that starts with a character of ASCII, told by the
  zeros among its first bytes.
* `decode?`: the glyphs of a text that arrives as bytes.
* `Unencodable`: the first glyphs of a text that a character set has no bytes for.
* `carried`: a text after it was kept as bytes, where some halves stand for single bytes.
* `ofBytes`: the text of UTF-8 bytes, where U+FFFD stands for those that are no text.
-/

namespace Reversi
namespace Text

def isHigh (n : Nat) : Bool := 0xd800 ≤ n && n < 0xdc00

def isLow (n : Nat) : Bool := 0xdc00 ≤ n && n < 0xe000

end Text

def Glyph.ofCode (n : Nat) : Glyph :=
  if Text.isHigh n || Text.isLow n then .half n else .char (Char.ofNat n)

namespace Text

def joined (high low : Nat) : Char :=
  Char.ofNat (0x10000 + (high - 0xd800) * 0x400 + (low - 0xdc00))

/-! ## Decoding -/

inductive ByteOrder where
  | big
  | little
  deriving DecidableEq

def ByteOrder.number : ByteOrder → List UInt8 → Nat
  | big, bytes => bytes.foldl (fun n b => 256 * n + b.toNat) 0
  | little, bytes => bytes.foldr (fun b n => 256 * n + b.toNat) 0

inductive Encoding where
  | utf8
  | utf16 (order : ByteOrder)
  | utf32 (order : ByteOrder)
  deriving DecidableEq

/-- A character of ASCII is written with one zero byte in UTF-16 and with three in UTF-32. -/
def Encoding.ofBytes : List UInt8 → Encoding
  | [0, _] => utf16 .big
  | [_, 0] => utf16 .little
  | 0 :: 0 :: _ :: _ :: _ => utf32 .big
  | 0 :: _ :: _ :: _ :: _ => utf16 .big
  | _ :: 0 :: 0 :: 0 :: _ => utf32 .little
  | _ :: 0 :: _ :: _ :: _ => utf16 .little
  | _ => utf8

def units16? (order : ByteOrder) : List UInt8 → Option (List Nat)
  | [] => some []
  | a :: b :: bytes => (units16? order bytes).map (order.number [a, b] :: ·)
  | _ => none

/-- Two halves of a pair that follow each other are one character. -/
def joinPairs : List Nat → List Glyph
  | [] => []
  | [n] => [.ofCode n]
  | m :: n :: units =>
    if isHigh m && isLow n then .char (joined m n) :: joinPairs units
    else .ofCode m :: joinPairs (n :: units)

def glyphs32? (order : ByteOrder) : List UInt8 → Option (List Glyph)
  | [] => some []
  | a :: b :: c :: d :: bytes =>
    let n := order.number [a, b, c, d]
    if n < 0x110000 then (glyphs32? order bytes).map (.ofCode n :: ·) else none
  | _ => none

/-- The text that the UTF-8 bytes of `s` are in their own encoding, or nothing when they are no
text in it. In UTF-8 one byte order mark may stand in front. -/
def decode? (s : String) : Option (List Glyph) :=
  let bytes := s.toUTF8.data.toList
  match Encoding.ofBytes bytes with
  | .utf16 order => (units16? order bytes).map joinPairs
  | .utf32 order => glyphs32? order bytes
  | .utf8 =>
    match glyphs s with
    | .char '\ufeff' :: gs => some gs
    | gs => some gs

/-! ## Encoding -/

inductive Charset where
  | ascii
  | utf8
  deriving DecidableEq

namespace Charset

def name : Charset → String
  | ascii => "ascii"
  | utf8 => "utf-8"

def holds : Charset → Glyph → Bool
  | ascii, g => g.code < 0x80
  | utf8, g => !g.isHalf

def limits : Charset → String
  | ascii => "ordinal not in range(128)"
  | utf8 => "surrogates not allowed"

end Charset

/-- Glyphs that follow each other and that a character set does not hold, from the place `start`
up to the place `stop`. The first one has the code point `code`. -/
structure Unencodable where
  charset : Charset
  code : Nat
  start : Nat
  stop : Nat
  deriving DecidableEq

namespace Unencodable

/-- One glyph is told apart from several ones. -/
def message (u : Unencodable) : String :=
  let place :=
    if u.stop = u.start + 1 then
      " '" ++ String.ofList (codePoint u.code) ++ s!"' in position {u.start}"
    else s!"s in position {u.start}-{u.stop - 1}"
  s!"'{u.charset.name}' codec can't encode character" ++ place ++ ": " ++ u.charset.limits

/-- The first ones from `position` on; code points that `carries` lets through do not start
them. -/
def from? (charset : Charset) (carries : Nat → Bool) : Nat → List Glyph → Option Unencodable
  | _, [] => none
  | position, g :: gs =>
    if charset.holds g || carries g.code then from? charset carries (position + 1) gs
    else
      let run := gs.takeWhile fun g => !charset.holds g
      some ⟨charset, g.code, position, position + 1 + run.length⟩

def first? (charset : Charset) (gs : List Glyph) : Option Unencodable :=
  from? charset (fun _ => false) 0 gs

end Unencodable

/-- Some halves stand for the bytes that are no text. -/
def isByte (code : Nat) : Bool := 0xdc80 ≤ code && code < 0xdd00

def carriedBytes (gs : List Glyph) : List UInt8 :=
  gs.flatMap fun
    | .char c => String.utf8EncodeChar c
    | .half n => [UInt8.ofNat n]

/-- The character that bytes start with, and how many of them it takes. -/
def firstChar? (bytes : List UInt8) : Option (Char × Nat) :=
  [1, 2, 3, 4].findSome? fun n =>
    match String.fromUTF8? ⟨(bytes.take n).toArray⟩ with
    | some s => s.toList.head?.map (·, n)
    | none => none

/-- Bytes that are no text stand for themselves. -/
def glyphsOfBytes : List UInt8 → List Glyph
  | [] => []
  | b :: bytes =>
    match firstChar? (b :: bytes) with
    | some (c, n) => .char c :: glyphsOfBytes (bytes.drop (n - 1))
    | none => .half (0xdc00 + b.toNat) :: glyphsOfBytes bytes
termination_by bytes => bytes.length
decreasing_by
  · simp only [List.length_drop, List.length_cons]
    omega
  · simp

/-- Bytes that stand for themselves may make up a character together. -/
def carried (gs : List Glyph) : List Glyph :=
  if gs.any Glyph.isHalf then glyphsOfBytes (carriedBytes gs) else gs

/-- More bytes make text of these. The bytes inside a character are from 0x80 to 0xbf, and either
end of this range may follow wherever any of it may. -/
def isUnfinished (bytes : List UInt8) : Bool :=
  [1, 2, 3].any fun n => [0x80, 0xbf].any fun b =>
    (String.fromUTF8? ⟨(bytes ++ List.replicate n b).toArray⟩).isSome

/-- How many bytes at the start of `bytes`, which starts with no character, belong together: as
many as can start a character. -/
def brokenLength (bytes : List UInt8) : Nat :=
  ([3, 2].find? fun n => (bytes.take n).length = n ∧ isUnfinished (bytes.take n)).getD 1

def mended : List UInt8 → List Char
  | [] => []
  | b :: bytes =>
    match firstChar? (b :: bytes) with
    | some (c, n) => c :: mended (bytes.drop (n - 1))
    | none => '\ufffd' :: mended (bytes.drop (brokenLength (b :: bytes) - 1))
termination_by bytes => bytes.length
decreasing_by
  all_goals
    simp only [List.length_drop, List.length_cons]
    omega

def ofBytes (bytes : List UInt8) : String :=
  match String.fromUTF8? ⟨bytes.toArray⟩ with
  | some s => s
  | none => String.ofList (mended bytes)

end Text
end Reversi
