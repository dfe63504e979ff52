/-!
# Reversi.Text.Glyph

What texts from outside are made of.

* `Glyph`: a character, or half of a surrogate pair that stands alone.
* `Text.glyphs`: the glyphs of a string.
* `Text.string?`: the string that glyphs make, unless there is a half among them.
* `Text.shapes`: the glyphs as characters, where a half is shown as U+FFFD.
-/

namespace Reversi

inductive Glyph where
  | char (c : Char)
  /-- With its code point, from U+D800 to U+DFFF. -/
  | half (code : Nat)
  deriving DecidableEq, Inhabited

namespace Glyph

def code : Glyph → Nat
  | char c => c.toNat
  | half n => n

def char? : Glyph → Option Char
  | char c => some c
  | half _ => none

def shape : Glyph → Char
  | char c => c
  | half _ => '\ufffd'

def isHalf : Glyph → Bool
  | char _ => false
  | half _ => true

end Glyph

namespace Text

def glyphs (s : String) : List Glyph := s.toList.map .char

def string? (gs : List Glyph) : Option String := (gs.mapM Glyph.char?).map String.ofList

def shapes (gs : List Glyph) : List Char := gs.map Glyph.shape

@[simp] theorem shapes_glyphs (s : String) : shapes (glyphs s) = s.toList := by
  simp [shapes, glyphs, Function.comp_def, Glyph.shape]

@[simp] theorem string?_glyphs (s : String) : string? (glyphs s) = some s := by
  have h : ∀ cs : List Char, (cs.map Glyph.char).mapM Glyph.char? = some cs := by
    intro cs
    induction cs with
    | nil => rfl
    | cons c cs ih => simp [Glyph.char?, ih]
  simp [string?, glyphs, h]

theorem string?_eq_some_iff {gs : List Glyph} {s : String} :
    string? gs = some s ↔ gs = glyphs s := by
  constructor
  · intro h
    have hchars : ∀ (gs : List Glyph) (cs : List Char),
        gs.mapM Glyph.char? = some cs → gs = cs.map .char := by
      intro gs
      induction gs with
      | nil => simp
      | cons g gs ih =>
        intro cs hcs
        cases g with
        | half n => simp [Glyph.char?] at hcs
        | char c =>
          obtain ⟨rest, hrest, rfl⟩ : ∃ rest, gs.mapM Glyph.char? = some rest ∧ c :: rest = cs := by
            simpa [Glyph.char?, Option.bind_eq_some_iff] using hcs
          rw [ih rest hrest, List.map_cons]
    obtain ⟨cs, hcs, rfl⟩ := Option.map_eq_some_iff.1 h
    rw [hchars gs cs hcs, glyphs, String.toList_ofList]
  · rintro rfl
    exact string?_glyphs s

end Text

end Reversi
