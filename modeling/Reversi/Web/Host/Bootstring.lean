/-!
# Reversi.Web.Host.Bootstring

Labels of any script written with letters, digits and hyphens alone.

* `Bootstring.threshold`, `Bootstring.adapt`: how many digits a number takes, fitted to the numbers
  before it.
* `Bootstring.encode`: the written form of a label.
* `Bootstring.decode?`: the code points that a written form stands for.
-/

namespace Reversi
namespace Bootstring

/-- Digits below the threshold of their place end a number. -/
def threshold (place bias : Nat) : Nat := min 26 (max 1 (36 * (place + 1) - bias))

theorem threshold_pos (place bias : Nat) : 0 < threshold place bias := by
  simp only [threshold]
  omega

/-- How often a number can be divided by 35 until it is at most 455, and what is left of it. -/
def shrink : Nat → Nat → Nat × Nat
  | 0, n => (0, n)
  | fuel + 1, n =>
    if 455 < n then
      let (count, rest) := shrink fuel (n / 35)
      (count + 1, rest)
    else (0, n)

/-- The bias after a number; `size` characters are known with the one that it placed. -/
def adapt (delta : Nat) (isFirst : Bool) (size : Nat) : Nat :=
  let delta := if isFirst then delta / 700 else delta / 2
  let delta := delta + delta / size
  let (count, rest) := shrink delta delta
  36 * count + 36 * rest / (rest + 38)

/-! ## Writing -/

/-- The small letters and then the digits of ASCII. -/
def digitChar (d : Nat) : Char := Char.ofNat (if d < 26 then 0x61 + d else 22 + d)

/-- The digits of `n` from a place on, the least one first. -/
def digits (bias place n : Nat) : List Char :=
  let t := threshold place bias
  if n < t then [digitChar n]
  else digitChar (t + (n - t) % (36 - t)) :: digits bias (place + 1) ((n - t) / (36 - t))
termination_by n
decreasing_by
  have := threshold_pos place bias
  exact Nat.lt_of_le_of_lt (Nat.div_le_self _ _) (by omega)

/-- What is known while characters are placed: the bias, the steps since the last one that was
placed, how many are placed, and the text so far. -/
structure Writing where
  bias : Nat
  delta : Nat
  placed : Nat
  text : List Char

/-- One character of the label, while the characters `code` are placed. -/
def Writing.pass (basic code : Nat) (w : Writing) (c : Nat) : Writing :=
  if c < code then { w with delta := w.delta + 1 }
  else if c = code then {
    bias := adapt w.delta (w.placed == basic) (w.placed + 1)
    delta := 0
    placed := w.placed + 1
    text := w.text ++ digits w.bias 0 w.delta }
  else w

/-- Places all characters of one code point; `next` is the least one that could have come. -/
def Writing.place (basic : Nat) (codes : List Nat) (state : Nat × Writing) (code : Nat) :
    Nat × Writing :=
  let (next, w) := state
  let w := { w with delta := w.delta + (code - next) * (w.placed + 1) }
  let w := codes.foldl (Writing.pass basic code) w
  (code + 1, { w with delta := w.delta + 1 })

/-- Characters of ASCII come first; if there are any, a hyphen follows them. -/
def encode (codes : List Nat) : List Char :=
  let basic := (codes.filter (· < 0x80)).map Char.ofNat
  let others := ((codes.filter (0x80 ≤ ·)).mergeSort fun a b => decide (a ≤ b)).eraseDups
  let start : Writing := ⟨72, 0, basic.length, if basic.isEmpty then [] else basic ++ ['-']⟩
  (others.foldl (Writing.place basic.length codes) (0x80, start)).2.text

/-! ## Reading -/

def digit? (c : Char) : Option Nat :=
  let n := c.toNat
  if 0x61 ≤ n ∧ n ≤ 0x7a then some (n - 0x61)
  else if 0x30 ≤ n ∧ n ≤ 0x39 then some (n - 22)
  else none

/-- A number and what follows it; `weight` is what a digit counts at this place. -/
def number? (bias : Nat) : Nat → Nat → List Char → Option (Nat × List Char)
  | _, _, [] => none
  | place, weight, c :: cs =>
    match digit? c with
    | none => none
    | some d =>
      let t := threshold place bias
      if d < t then some (d * weight, cs)
      else (number? bias (place + 1) (weight * (36 - t)) cs).map fun (n, rest) =>
        (n + d * weight, rest)

/-- Each number tells where the next character goes and how much greater it is. `fuel` bounds the
numbers, each of which takes a digit at least. -/
def insertAll? : Nat → Nat → Nat → Nat → Bool → List Nat → List Char → Option (List Nat)
  | 0, _, _, _, _, _, _ => none
  | _ + 1, _, _, _, _, codes, [] => some codes
  | fuel + 1, bias, place, code, isFirst, codes, cs =>
    match number? bias 0 1 cs with
    | none => none
    | some (delta, rest) =>
      let size := codes.length + 1
      let code := code + (place + delta) / size
      let place := (place + delta) % size
      if 0x10ffff < code then none
      else
        insertAll? fuel (adapt delta isFirst size) (place + 1) code false
          (codes.take place ++ code :: codes.drop place) rest

/-- Small letters are read. The last hyphen ends the characters of ASCII. -/
def decode? (cs : List Char) : Option (List Nat) :=
  let tail := (cs.reverse.takeWhile (· != '-')).reverse
  let basic := cs.take (cs.length - tail.length - 1)
  insertAll? (tail.length + 1) 72 0 0x80 true (basic.map Char.toNat) tail

end Bootstring
end Reversi
