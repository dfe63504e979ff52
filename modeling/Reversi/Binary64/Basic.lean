/-!
# Reversi.Binary64.Basic

Binary64 numbers as exact fractions.

* `Binary64`: a sign, a whole number and the power of two that it is taken times.
* `Binary64.ofFloat`: the parts of a finite number.
* `Binary64.whole?`: the integer that a number is.
* `Binary64.ofDecimal`: the number nearest to a decimal fraction.
-/

namespace Reversi

structure Binary64 where
  negative : Bool
  size : Nat
  power : Int
  deriving DecidableEq

namespace Binary64

/-- Fifty-two bits hold the fraction and eleven the exponent. Where the exponent is 0 the number
has no leading one. -/
def ofBits (bits : Nat) : Binary64 :=
  let fraction := bits % 0x10000000000000
  let exponent := (bits >>> 52) % 0x800
  let negative := bits >>> 63 == 1
  if exponent = 0 then ⟨negative, fraction, -1074⟩
  else ⟨negative, 0x10000000000000 + fraction, (exponent : Int) - 1075⟩

def ofFloat (x : Float) : Binary64 := ofBits x.toBits.toNat

/-- The size of a number that has no places. -/
def wholeSize? (x : Binary64) : Option Nat :=
  let size := x.size >>> (-x.power).toNat
  if size <<< (-x.power).toNat = x.size then some (size <<< x.power.toNat) else none

def whole? (x : Binary64) : Option Int :=
  x.wholeSize?.map fun size => if x.negative then -size else size

/-- The whole part, cut off towards zero. -/
def truncated (x : Binary64) : Int :=
  let size : Int := ((x.size >>> (-x.power).toNat) <<< x.power.toNat : Nat)
  if x.negative then -size else size

/-- `mantissa * 10 ^ exponent`, rounded to the nearest binary64 number. -/
def ofDecimal (negative : Bool) (mantissa : Nat) (exponent : Int) : Float :=
  let size : Int := (toString mantissa).length + exponent
  let x :=
    if mantissa = 0 ∨ size < -330 then 0.0
    else if 310 < size then 1.0 / 0.0
    else Float.ofScientific mantissa (exponent < 0) exponent.natAbs
  if negative then -x else x

end Binary64

end Reversi
