import Reversi.Text.WholeNumber
import Reversi.Web.Complaint
import Reversi.Web.Quotable

/-!
# Reversi.Web.Field

Reading the single fields of a request.

* `wholeNumber`: an integer in text.
* `coordinate`: a row or column in a body, from 0 to 7.
* `playerName`: a string that is not empty.
-/

namespace Reversi
namespace Field

def wholeNumber (text : String) : Except ComplaintKind Int :=
  match Text.readWholeNumber text with
  | .ok n => .ok n
  | .error .malformed => .error .intParsing
  | .error .tooLong => .error .intParsingSize

/-- A number without places, strictly between the bounds of 64-bit words. -/
def ofReal (x : Float) : Except ComplaintKind Int :=
  if x.isNaN || x.isInf then .error .finiteNumber
  else if x.floor != x then .error .intFromFloat
  else if x ≤ -9223372036854775808.0 || 9223372036854775808.0 ≤ x then .error .intParsingSize
  else .ok x.toInt64.toInt

def integer : Datum → Except ComplaintKind Int
  | .number n => .ok n
  | .flag b => .ok (if b then 1 else 0)
  | .real x => ofReal x
  | .text gs =>
    match Text.string? gs with
    | some s => wholeNumber s
    | none => .error .stringUnicode
  | _ => .error .intType

def coordinate (x : Datum) : Except ComplaintKind (Fin 8) :=
  match integer x with
  | .error k => .error k
  | .ok n =>
    if n < 0 then .error .greaterThanEqual
    else if h : n < 8 then .ok ⟨n.toNat, by omega⟩
    else .error .lessThanEqual

def playerName : Datum → Except ComplaintKind String
  | .text gs =>
    match Text.string? gs with
    | some s => if s.isEmpty then .error .stringTooShort else .ok s
    | none => .error .stringUnicode
  | _ => .error .stringType

/-- A member of a record by its short name or else by its long one. A complaint names the one
that was used and is about its value; where there is none, it is about the record. -/
def named {α : Type} (members : List (List Glyph × Datum)) (short long : String)
    (read : Datum → Except ComplaintKind α) : Checked α :=
  let use (name : String) (x : Datum) : Checked α :=
    match read x with
    | .ok a => .ok a
    | .error k => .one ⟨k, .body, some name, x.quotable⟩
  match Datum.member? short members with
  | some x => use short x
  | none =>
    match Datum.member? long members with
    | some x => use long x
    | none => .one ⟨.missing, .body, some short, (Datum.record members).quotable⟩

end Field
end Reversi
