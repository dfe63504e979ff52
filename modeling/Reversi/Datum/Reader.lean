import Reversi.Datum.Basic
import Reversi.Text.Encoding
import Reversi.Text.Numeral

/-!
# Reversi.Datum.Reader

JSON text to data. `NaN`, `Infinity` and `-Infinity` are read as numbers.

* `Datum.read`: a whole text, in any encoding that `Text.decode?` knows.
* `DatumFault`: why a text is no datum. Of several faults the first one is found.
* `Datum.maxNesting`: how many lists and records may be open at once.
-/

namespace Reversi

inductive DatumFault where
  | malformed
  | longInteger
  | tooDeep
  | undecodable
  deriving DecidableEq

namespace Datum

open Text

def maxNesting : Nat := 964

/-- What is wrong inside a list or record, where `room` more may be opened. To say what was
expected there takes the room of three. -/
def unexpected (room : Nat) : DatumFault := if room < 3 then .tooDeep else .malformed

def isBlank : Glyph → Bool
  | .char c => c == ' ' || c == '\t' || c == '\n' || c == '\r'
  | .half _ => false

def skipBlank (gs : List Glyph) : List Glyph := gs.dropWhile isBlank

/-! ## Strings -/

/-- Four hexadecimal digits and what follows them. -/
def unit? : List Glyph → Option (Nat × List Glyph)
  | .char a :: .char b :: .char c :: .char d :: rest => do
    let a ← hexValue? a
    let b ← hexValue? b
    let c ← hexValue? c
    let d ← hexValue? d
    return (((a * 16 + b) * 16 + c) * 16 + d, rest)
  | _ => none

/-- One glyph from the units of its escapes, after the first mark of an escape. -/
def escaped? (gs : List Glyph) : Option (Glyph × List Glyph) :=
  match unit? gs with
  | none => none
  | some (high, rest) =>
    match rest with
    | .char '\\' :: .char 'u' :: more =>
      match unit? more with
      | some (low, rest') =>
        if isHigh high && isLow low then some (.char (Text.joined high low), rest')
        else some (.ofCode high, rest)
      | none => none
    | _ => some (.ofCode high, rest)

def simpleEscape? : Char → Option Char
  | '"' => some '"'
  | '\\' => some '\\'
  | '/' => some '/'
  | 'b' => some (Char.ofNat 8)
  | 'f' => some (Char.ofNat 12)
  | 'n' => some '\n'
  | 'r' => some '\r'
  | 't' => some '\t'
  | _ => none

/-- A string after its opening quote; `got` holds its first glyphs in reverse. Control characters
must be written as escapes. -/
def readText : Nat → List Glyph → List Glyph → Option (List Glyph × List Glyph)
  | 0, _, _ => none
  | fuel + 1, got, gs =>
    match gs with
    | [] => none
    | .char '"' :: rest => some (got.reverse, rest)
    | .char '\\' :: .char 'u' :: rest =>
      match escaped? rest with
      | some (g, rest) => readText fuel (g :: got) rest
      | none => none
    | .char '\\' :: .char c :: rest =>
      match simpleEscape? c with
      | some c => readText fuel (.char c :: got) rest
      | none => none
    | .char '\\' :: _ => none
    | .char c :: rest => if c.toNat < 32 then none else readText fuel (.char c :: got) rest
    | .half n :: rest => readText fuel (.half n :: got) rest

/-! ## Numbers and words -/

/-- The values of the digits in front, and what follows them. -/
def takeDigits : List Glyph → List Nat × List Glyph
  | [] => ([], [])
  | g :: gs =>
    match g.char?.bind asciiDigit? with
    | some d =>
      let (ds, rest) := takeDigits gs
      (d :: ds, rest)
    | none => ([], g :: gs)

def digitsValue (ds : List Nat) : Nat := ds.foldl (fun n d => 10 * n + d) 0

/-- The digits after a point, if there is a point with digits after it. -/
def fraction (gs : List Glyph) : List Nat × List Glyph :=
  match gs with
  | .char '.' :: rest =>
    match takeDigits rest with
    | ([], _) => ([], gs)
    | found => found
  | _ => ([], gs)

/-- The exponent, if there is one. -/
def exponent (gs : List Glyph) : Option Int × List Glyph :=
  match gs with
  | .char e :: rest =>
    if e = 'e' ∨ e = 'E' then
      let (negative, rest) : Bool × List Glyph :=
        match rest with
        | .char '-' :: more => (true, more)
        | .char '+' :: more => (false, more)
        | more => (false, more)
      match takeDigits rest with
      | ([], _) => (none, gs)
      | (ds, rest) => (some (value negative ds), rest)
    else (none, gs)
  | _ => (none, gs)

/-- A number without its sign. A leading zero stands alone. -/
def readNumber (negative : Bool) (gs : List Glyph) : Except DatumFault (Datum × List Glyph) :=
  let (whole, rest) : List Nat × List Glyph :=
    match gs with
    | .char '0' :: rest => ([0], rest)
    | _ => takeDigits gs
  if whole.isEmpty then .error .malformed
  else
    let (places, rest) := fraction rest
    let (power, rest) := exponent rest
    match places, power with
    | [], none =>
      if whole.length > maxDigits then .error .longInteger
      else .ok (.number (value negative whole), rest)
    | _, _ =>
      let power : Int := power.getD 0 - places.length
      .ok (.real (Binary64.ofDecimal negative (digitsValue (whole ++ places)) power), rest)

/-- What follows a word. -/
def afterWord? : List Char → List Glyph → Option (List Glyph)
  | [], gs => some gs
  | c :: cs, g :: gs => if g = .char c then afterWord? cs gs else none
  | _, [] => none

def words : List (String × Datum) := [
    ("null", .nothing), ("true", .flag true), ("false", .flag false), ("NaN", .real (0.0 / 0.0)),
    ("Infinity", .real (1.0 / 0.0)), ("-Infinity", .real (-(1.0 / 0.0)))]

def readWord? (gs : List Glyph) : Option (Datum × List Glyph) :=
  words.findSome? fun (word, x) => (afterWord? word.toList gs).map (x, ·)

/-- A value that is no string, list or record. The words for numbers take the room of a list. -/
def readPlain (room : Nat) (gs : List Glyph) : Except DatumFault (Datum × List Glyph) :=
  match readWord? gs with
  | some (.real x, rest) => if room = 0 then .error .tooDeep else .ok (.real x, rest)
  | some found => .ok found
  | none =>
    match gs with
    | .char '-' :: rest => readNumber true rest
    | _ => readNumber false gs

/-! ## Values -/

mutual

/-- `room` more lists and records may be opened. -/
def readValue : Nat → Nat → List Glyph → Except DatumFault (Datum × List Glyph)
  | 0, _, _ => .error .malformed
  | fuel + 1, room, gs =>
    match gs with
    | .char '"' :: rest =>
      match readText (fuel + 1) [] rest with
      | some (s, rest) => .ok (.text s, rest)
      | none => .error (unexpected room)
    | .char '[' :: rest =>
      match room with
      | 0 => .error .tooDeep
      | room + 1 =>
        match skipBlank rest with
        | .char ']' :: rest => .ok (.list [], rest)
        | rest => readItems fuel room [] rest
    | .char '\x7b' :: rest =>
      match room with
      | 0 => .error .tooDeep
      | room + 1 =>
        match skipBlank rest with
        | .char '\x7d' :: rest => .ok (.record [], rest)
        | rest => readMembers fuel room [] rest
    | _ => readPlain room gs

/-- The items of a list from an item on; `got` holds the first ones in reverse. -/
def readItems : Nat → Nat → List Datum → List Glyph → Except DatumFault (Datum × List Glyph)
  | 0, _, _, _ => .error .malformed
  | fuel + 1, room, got, gs =>
    match readValue fuel room gs with
    | .error f => .error f
    | .ok (x, rest) =>
      match skipBlank rest with
      | .char ']' :: rest => .ok (.list (x :: got).reverse, rest)
      | .char ',' :: rest => readItems fuel room (x :: got) (skipBlank rest)
      | _ => .error (unexpected room)

/-- The members of a record from a name on; `got` holds the first ones in reverse. -/
def readMembers : Nat → Nat → List (List Glyph × Datum) → List Glyph →
    Except DatumFault (Datum × List Glyph)
  | 0, _, _, _ => .error .malformed
  | fuel + 1, room, got, gs =>
    match gs with
    | .char '"' :: rest =>
      match readText (fuel + 1) [] rest with
      | none => .error (unexpected room)
      | some (name, rest) =>
        match skipBlank rest with
        | .char ':' :: rest =>
          match readValue fuel room (skipBlank rest) with
          | .error f => .error f
          | .ok (x, rest) =>
            match skipBlank rest with
            | .char '\x7d' :: rest => .ok (.ofMembers ((name, x) :: got).reverse, rest)
            | .char ',' :: rest => readMembers fuel room ((name, x) :: got) (skipBlank rest)
            | _ => .error (unexpected room)
        | _ => .error (unexpected room)
    | _ => .error (unexpected room)

end

/-- Each nested call takes a glyph, or follows one that did. -/
def read (text : String) : Except DatumFault Datum :=
  match decode? text with
  | none => .error .undecodable
  | some gs =>
    match readValue (2 * gs.length + 2) maxNesting (skipBlank gs) with
    | .error f => .error f
    | .ok (x, rest) => if (skipBlank rest).isEmpty then .ok x else .error .malformed

end Datum

end Reversi
