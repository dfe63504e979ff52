/-!
# Reversi.Web.Complaint

What is wrong with the form of a request.

* `Complaint`: a kind, the place and the field concerned; a complaint about the whole body has
  no field. A report repeats what its complaints are about, where that is `quotable`.
* `Checked`: a value, or every complaint that was found on the way to it.
* `Checked.both`: two checks side by side; the complaints of both are kept.
-/

namespace Reversi

inductive ComplaintKind where
  | intParsing
  | intParsingSize
  | intFromFloat
  | intType
  | finiteNumber
  | greaterThanEqual
  | lessThanEqual
  | enumMember
  | stringType
  | stringUnicode
  | stringTooShort
  | missing
  | jsonInvalid
  | objectType
  deriving DecidableEq

def ComplaintKind.word : ComplaintKind → String
  | intParsing => "int_parsing"
  | intParsingSize => "int_parsing_size"
  | intFromFloat => "int_from_float"
  | intType => "int_type"
  | finiteNumber => "finite_number"
  | greaterThanEqual => "greater_than_equal"
  | lessThanEqual => "less_than_equal"
  | enumMember => "enum"
  | stringType => "string_type"
  | stringUnicode => "string_unicode"
  | stringTooShort => "string_too_short"
  | missing => "missing"
  | jsonInvalid => "json_invalid"
  | objectType => "model_attributes_type"

inductive Place where
  | query
  | body
  deriving DecidableEq

def Place.word : Place → String
  | query => "query"
  | body => "body"

structure Complaint where
  kind : ComplaintKind
  place : Place
  field : Option String
  quotable : Bool
  deriving DecidableEq

/-- Kind, place and field, as reports list them. -/
def Complaint.words (c : Complaint) : List String :=
  c.kind.word :: c.place.word :: c.field.toList

abbrev Checked (α : Type) := Except (List Complaint) α

namespace Checked

def one {α : Type} (c : Complaint) : Checked α := .error [c]

def both {α β : Type} : Checked α → Checked β → Checked (α × β)
  | .ok a, .ok b => .ok (a, b)
  | .ok _, .error es => .error es
  | .error es, .ok _ => .error es
  | .error es, .error fs => .error (es ++ fs)

end Checked

end Reversi
