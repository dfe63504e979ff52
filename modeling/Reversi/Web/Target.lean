import Reversi.Web.Address

/-!
# Reversi.Web.Target

What a request is addressed to.

* `Target`: a path and named parameters, both as they are meant.
* `Target.resolve`: what the path of an address means.
* `Target.ofAddress`: the target that an address and parameters name.
* `TargetFault`: why they name none.
-/

namespace Reversi

structure Target where
  path : String
  params : List (String × String)
  deriving DecidableEq

inductive TargetFault where
  /-- A part that is too long once it is escaped. -/
  | longPart (name : String)
  | unencodable (fault : Text.Unencodable)
  deriving DecidableEq

def TargetFault.message : TargetFault → String
  | longPart name => s!"URL component '{name}' too long"
  | unencodable fault => fault.message

namespace Target

/-- The path of an address. Where the place is not told in full, the path starts with one slash,
however many are written. -/
def pathOf (a : Address) : List Glyph :=
  if a.isAbsolute then a.path else .char '/' :: a.path.dropWhile (· == .char '/')

/-- Escapes are resolved twice: once when the target is read and once more when it is looked
up. -/
def resolve (path : List Glyph) : String :=
  match Text.shapes (Address.dropDots path) with
  | [] => "/"
  | cs => Escape.undo (Escape.undo (String.ofList cs))

/-! ## Parameters -/

abbrev Params := List (List Glyph × List Glyph)

/-- Parameters of one name stand together, where the first of them stands. -/
def gathered (params : Params) : Params :=
  (params.map Prod.fst).eraseDups.flatMap fun name => params.filter (·.1 == name)

def paramFault? (params : Params) : Option TargetFault :=
  ((gathered params).findSome? fun (name, value) =>
    (Text.Unencodable.first? .utf8 name).or (Text.Unencodable.first? .utf8 value)).map .unencodable

/-- The parameters as they are sent. -/
def querySent (params : Params) : List Char :=
  List.intercalate ['&'] ((gathered params).map fun (name, value) =>
    Escape.escapeParam (Text.shapes name) ++ '=' :: Escape.escapeParam (Text.shapes value))

/-! ## Faults -/

def longPart? (name : String) (part : List Char) : Option TargetFault :=
  if Address.maxLength < part.length then some (.longPart name) else none

/-- The query and the fragment that a text names do not count, but they must not be too long
where they are looked at. -/
def fault? (a : Address) (params : Params) : Option TargetFault :=
  let escape (isSafe : Char → Bool) (part : List Glyph) : List Char :=
    Escape.escape isSafe (Text.shapes part)
  let path := longPart? "path" (escape Escape.isPathChar (pathOf a))
  let query := longPart? "query" (querySent params)
  let written := longPart? "query" (escape Escape.isQueryChar a.query)
  let fragment := longPart? "fragment" (escape Escape.isFragmentChar a.fragment)
  let authority := longPart? "authority" a.authority
  if a.isAbsolute then [paramFault? params, authority, path, query, fragment].findSome? id
  else [path, written, paramFault? params, query].findSome? id

def ofAddress (a : Address) (params : Params) : Except TargetFault Target :=
  match fault? a params with
  | some f => .error f
  | none =>
    let text (gs : List Glyph) : String := String.ofList (Text.shapes gs)
    .ok ⟨resolve (pathOf a), params.map fun (name, value) => (text name, text value)⟩

def query (t : Target) : List Char :=
  querySent (t.params.map fun (name, value) => (Text.glyphs name, Text.glyphs value))

end Target

end Reversi
