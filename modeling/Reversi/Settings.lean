import Reversi.Text.Letters
import Reversi.Text.Numeral
import Reversi.Web.Service

/-!
# Reversi.Settings

What the environment of the program sets.

* `Environment`: variables by name; `Environment.ofList` reads it off a list of them.
* `Settings.engineDepth`: the usual depth of engines, one that clients may ask for.
* `Settings.launch`: address, port and log level of the service.
* `SettingsFault`: why a setting is refused.
-/

namespace Reversi

abbrev Environment := String → Option (List Glyph)

inductive SettingsFault where
  | unencodable (fault : Text.Unencodable)
  | zeroCharacter
  | illegalName
  | numeral (fault : Text.NumeralFault)
  | depth (found : Int)
  | logLevel (name : List Glyph)
  deriving DecidableEq

namespace SettingsFault

def message : SettingsFault → String
  | unencodable fault => fault.message
  | zeroCharacter => "embedded null byte"
  | illegalName => "illegal environment variable name"
  | numeral fault => fault.message
  | depth found => s!"OTHELLO_AI_DEPTH={found} is not one of {Service.depthList}"
  | logLevel name => "Unknown level: " ++ Text.quote name

end SettingsFault

namespace Environment

/-- A text has to be made of bytes. -/
def bytesFault? (gs : List Glyph) : Option SettingsFault :=
  (Text.Unencodable.from? .utf8 Text.isByte 0 gs).map .unencodable

/-- No byte may be zero. -/
def zeroFault? (gs : List Glyph) : Option SettingsFault :=
  if gs.contains (.char (Char.ofNat 0)) then some .zeroCharacter else none

/-- An equals sign would end the name. -/
def nameFault? (name : List Glyph) : Option SettingsFault :=
  if name.contains (.char '=') then some .illegalName else none

def fault? (vars : List (List Glyph × List Glyph)) : Option SettingsFault :=
  vars.findSome? fun (name, value) =>
    [bytesFault? name, bytesFault? value, zeroFault? name, zeroFault? value,
      nameFault? name].findSome? id

def ofList (vars : List (List Glyph × List Glyph)) : Except SettingsFault Environment :=
  match fault? vars with
  | some f => .error f
  | none => .ok fun name => (vars.lookup (Text.glyphs name)).map Text.carried

end Environment

/-- How the service is started. -/
structure Launch where
  host : List Glyph
  port : Int
  logLevel : List Glyph
  threshold : Nat
  deriving DecidableEq

namespace Settings

def readNumber (env : Environment) (name standard : String) : Except SettingsFault Int :=
  match Text.readInt ((env name).getD (Text.glyphs standard)) with
  | .ok n => .ok n
  | .error f => .error (.numeral f)

def engineDepth (env : Environment) : Except SettingsFault Int :=
  match readNumber env "OTHELLO_AI_DEPTH" "3" with
  | .error f => .error f
  | .ok d => if Service.allowedDepths.contains d then .ok d else .error (.depth d)

/-- The number below which a logger of this level is silent. -/
def threshold? : String → Option Nat
  | "CRITICAL" => some 50
  | "FATAL" => some 50
  | "ERROR" => some 40
  | "WARN" => some 30
  | "WARNING" => some 30
  | "INFO" => some 20
  | "DEBUG" => some 10
  | "NOTSET" => some 0
  | _ => none

def launch (env : Environment) : Except SettingsFault Launch :=
  match readNumber env "OTHELLO_PORT" "8000" with
  | .error f => .error f
  | .ok port =>
    let word := Text.lower ((env "OTHELLO_LOG_LEVEL").getD (Text.glyphs "info"))
    let name := Text.upper word
    match (Text.string? name).bind threshold? with
    | none => .error (.logLevel name)
    | some n => .ok ⟨(env "OTHELLO_HOST").getD (Text.glyphs "0.0.0.0"), port, word, n⟩

end Settings

end Reversi
