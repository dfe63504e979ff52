import Reversi.Datum.Shown

/-!
# Reversi.Unrecognized

A value that names no member of a finite class.

* `Unrecognized`: the member as it was written, and the class.
* `Unrecognized.ofDatum`: for a value of any kind, a text being quoted.
-/

namespace Reversi

structure Unrecognized where
  written : String
  kind : String
  deriving DecidableEq

namespace Unrecognized

def ofDatum (d : Datum) (kind : String) : Unrecognized := ⟨d.shown, kind⟩

def message (u : Unrecognized) : String := u.written ++ " is not a valid " ++ u.kind

end Unrecognized

end Reversi
