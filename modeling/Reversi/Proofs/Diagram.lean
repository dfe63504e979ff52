import Mathlib.Data.List.Basic
import Reversi.Board.Diagram
import Reversi.Proofs.Bracket

/-!
# Reversi.Proofs.Diagram

Boards as text, in both directions.

* `Text.visible`: a text without its blank characters; nothing else of it is read.
* `Board.readSymbols_cells`, `Board.readSymbols_unknown`: symbols are read one by one, up to the
  first that stands for no cell.
* `Board.rows_eq`, `Board.flatten_rows`: the rows are the cells in order, eight at a time.
* `Board.visible_diagram`: what is written is the symbols of the cells, and blank characters.
* `Board.diagram_faithful`: which texts are read, as what, and what is said of the others.
-/

namespace Reversi

def Glyph.isBlank (g : Glyph) : Bool := g.char?.any Text.isBlank

def Cell.glyph (c : Cell) : Glyph := .char c.symbol

/-- All that may stand in a diagram besides blank characters. -/
def Board.symbols : List Glyph := [.char '.', .char 'B', .char 'W']

/-! ## Blank characters -/

namespace Text

def visible (gs : List Glyph) : List Glyph := gs.filter fun g => !g.isBlank

theorem visible_append (gs gs' : List Glyph) : visible (gs ++ gs') = visible gs ++ visible gs' :=
  List.filter_append gs gs'

theorem visible_of_blank {gs : List Glyph} (h : ∀ g ∈ gs, g.isBlank = true) : visible gs = [] :=
  List.filter_eq_nil_iff.2 fun g hg => by simp [h g hg]

theorem visible_cells (cs : List Cell) : visible (cs.map Cell.glyph) = cs.map Cell.glyph := by
  refine List.filter_eq_self.2 fun g hg => ?_
  obtain ⟨c, -, rfl⟩ := List.mem_map.1 hg
  cases c <;> decide

theorem map_intercalate {α β : Type} (f : α → β) (sep : List α) (lines : List (List α)) :
    (sep.intercalate lines).map f = (sep.map f).intercalate (lines.map (·.map f)) := by
  induction lines with
  | nil => rfl
  | cons line lines ih =>
    cases lines with
    | nil => simp
    | cons next rest =>
      rw [List.intercalate_cons_cons, List.map_append, List.map_append, ih]
      exact List.intercalate_cons_cons.symm

/-- Lines of text without the line ends. -/
theorem visible_intercalate {sep : List Glyph} (hsep : visible sep = [])
    (lines : List (List Glyph)) :
    visible (sep.intercalate lines) = (lines.map visible).flatten := by
  induction lines with
  | nil => rfl
  | cons line lines ih =>
    cases lines with
    | nil => simp
    | cons next rest =>
      rw [List.intercalate_cons_cons, visible_append, visible_append, hsep, List.append_nil, ih]
      rfl

end Text

/-! ## Symbols -/

theorem Cell.ofSymbol?_eq_some_iff {x : Char} {c : Cell} : ofSymbol? x = some c ↔ x = c.symbol := by
  constructor
  · intro h
    unfold ofSymbol? at h
    split at h <;> cases h <;> rfl
  · rintro rfl
    exact ofSymbol?_symbol c

theorem Cell.ofSymbol?_char_eq_some_iff {g : Glyph} {c : Cell} :
    g.char?.bind ofSymbol? = some c ↔ g = c.glyph := by
  cases g with
  | half n => simp [Glyph.char?, glyph]
  | char x => simp [Glyph.char?, glyph, ofSymbol?_eq_some_iff]

namespace Board

open Text

theorem mem_symbols_iff {g : Glyph} : g ∈ symbols ↔ ∃ c : Cell, g = c.glyph := by
  constructor
  · intro h
    simp only [symbols, List.mem_cons, List.not_mem_nil, or_false] at h
    rcases h with rfl | rfl | rfl
    · exact ⟨.empty, rfl⟩
    · exact ⟨.black, rfl⟩
    · exact ⟨.white, rfl⟩
  · rintro ⟨c, rfl⟩
    cases c <;> decide

/-- A text consists of symbols, or there is a first character that is none. -/
theorem symbols_or_unknown (gs : List Glyph) :
    (∃ cs : List Cell, gs = cs.map Cell.glyph) ∨
      ∃ (cs : List Cell) (g : Glyph) (rest : List Glyph),
        gs = cs.map Cell.glyph ++ g :: rest ∧ g ∉ symbols := by
  induction gs with
  | nil => exact .inl ⟨[], rfl⟩
  | cons g gs ih =>
    by_cases hg : g ∈ symbols
    · obtain ⟨c, rfl⟩ := mem_symbols_iff.1 hg
      rcases ih with ⟨cs, rfl⟩ | ⟨cs, g, rest, rfl, hg⟩
      · exact .inl ⟨c :: cs, rfl⟩
      · exact .inr ⟨c :: cs, g, rest, rfl, hg⟩
    · exact .inr ⟨[], g, gs, rfl, hg⟩

theorem forall_mem_symbols_iff {gs : List Glyph} :
    (∀ g ∈ gs, g ∈ symbols) ↔ ∃ cs : List Cell, gs = cs.map Cell.glyph := by
  constructor
  · intro h
    rcases symbols_or_unknown gs with hcs | ⟨cs, g, rest, rfl, hg⟩
    · exact hcs
    · exact absurd (h g (by simp)) hg
  · rintro ⟨cs, rfl⟩ g hg
    obtain ⟨c, -, rfl⟩ := List.mem_map.1 hg
    exact mem_symbols_iff.2 ⟨c, rfl⟩

theorem readSymbols_cells (cs : List Cell) : readSymbols (cs.map Cell.glyph) = .ok cs := by
  induction cs with
  | nil => rfl
  | cons c cs ih =>
    rw [List.map_cons, readSymbols, Cell.ofSymbol?_char_eq_some_iff.2 rfl, ih]
    rfl

/-- The first symbol that stands for no cell ends the reading, whatever follows it. -/
theorem readSymbols_unknown {g : Glyph} (hg : g ∉ symbols) (cs : List Cell) (rest : List Glyph) :
    readSymbols (cs.map Cell.glyph ++ g :: rest) = .error (.unknownSymbol g) := by
  induction cs with
  | nil =>
    have hnone : g.char?.bind Cell.ofSymbol? = none := by
      refine Option.eq_none_iff_forall_ne_some.2 fun c hc => hg (mem_symbols_iff.2 ⟨c, ?_⟩)
      exact Cell.ofSymbol?_char_eq_some_iff.1 hc
    rw [List.map_nil, List.nil_append, readSymbols, hnone]
  | cons c cs ih =>
    rw [List.map_cons, List.cons_append, readSymbols, Cell.ofSymbol?_char_eq_some_iff.2 rfl, ih]
    rfl

theorem ofCells_toList (b : Board) : ofCells b.toList = .ok b := by
  rw [ofCells, ofCells?_toList]

theorem ofCells_of_length_ne {cs : List Cell} (h : cs.length ≠ 64) :
    ofCells cs = .error (.wrongSize cs.length) := by
  rw [ofCells, ofCells?, dif_neg h]

theorem exists_toList {cs : List Cell} (h : cs.length = 64) : ∃ b : Board, b.toList = cs :=
  ⟨⟨⟨cs.toArray, by simpa using h⟩⟩, rfl⟩

theorem ofCells_eq_ok {cs : List Cell} {b : Board} (h : ofCells cs = .ok b) : cs = b.toList := by
  by_cases hlen : cs.length = 64
  · obtain ⟨c, rfl⟩ := exists_toList hlen
    rw [ofCells_toList] at h
    rw [Except.ok.inj h]
  · rw [ofCells_of_length_ne hlen] at h
    cases h

/-! ## Texts -/

variable {gs : List Glyph} {b : Board} {cs : List Cell} {g : Glyph}

theorem ofGlyphs_eq (gs : List Glyph) :
    ofGlyphs gs = match readSymbols (visible gs) with
      | .ok cells => ofCells cells
      | .error f => .error f := rfl

theorem ofGlyphs_of_cells (h : visible gs = cs.map Cell.glyph) : ofGlyphs gs = ofCells cs := by
  rw [ofGlyphs_eq, h, readSymbols_cells]

theorem ofGlyphs_of_unknown {rest : List Glyph}
    (h : visible gs = cs.map Cell.glyph ++ g :: rest) (hg : g ∉ symbols) :
    ofGlyphs gs = .error (.unknownSymbol g) := by
  rw [ofGlyphs_eq, h, readSymbols_unknown hg]

theorem ofGlyphs_eq_ok_iff : ofGlyphs gs = .ok b ↔ visible gs = b.toList.map Cell.glyph := by
  constructor
  · intro h
    rcases symbols_or_unknown (visible gs) with ⟨cs, hcs⟩ | ⟨cs, g, rest, hgs, hg⟩
    · rw [ofGlyphs_of_cells hcs] at h
      rw [hcs, ofCells_eq_ok h]
    · rw [ofGlyphs_of_unknown hgs hg] at h
      cases h
  · intro h
    rw [ofGlyphs_of_cells h, ofCells_toList]

/-! ## Rows -/

theorem rows_eq (b : Board) :
    b.rows = (List.range 8).map fun r => (b.toList.drop (8 * r)).take 8 := by
  refine List.ext_getElem (by simp [rows]) fun r hr _ => ?_
  have hr : r < 8 := by simpa [rows] using hr
  refine List.ext_getElem ?_ fun c hc _ => ?_
  · simp [rows, length_toList]
    omega
  · simp [rows, toList, get, Square.index, Square.get_eq_getElem]

theorem flatten_rows (b : Board) : b.rows.flatten = b.toList := by
  have hall : Square.all =
      (List.finRange 8).flatMap fun r => (List.finRange 8).map (Square.mk r) := by decide +kernel
  rw [toList_eq_map, hall, List.map_flatMap, rows, List.flatMap_def]
  simp only [List.map_map]
  rfl

theorem glyphs_diagram (b : Board) :
    glyphs b.diagram = List.intercalate [.char '\n'] (b.rows.map (·.map Cell.glyph)) := by
  rw [glyphs, diagram, String.toList_intercalate, map_intercalate, List.map_map, List.map_map]
  refine congrArg _ (List.map_congr_left fun row _ => ?_)
  simp only [Function.comp_apply, String.toList_ofList, List.map_map]
  rfl

theorem visible_diagram (b : Board) : visible (glyphs b.diagram) = b.toList.map Cell.glyph := by
  rw [glyphs_diagram, visible_intercalate (by decide), List.map_map, ← flatten_rows,
    List.map_flatten]
  congr 1
  exact List.map_congr_left fun row _ => visible_cells row

/-! ## Reading and writing -/

/-- A text is read as a board exactly if its characters that are not blank are sixty-four symbols,
and these are the symbols of the cells in order. Of any other text the first character is reported
that is neither blank nor a symbol, and if there is none, the number of symbols. What is written of
a board is read as this board; it is the text that the board was read from, without blanks, in eight
lines of eight. Blank characters never matter. -/
theorem diagram_faithful (gs : List Glyph) (b : Board) :
    (ofGlyphs gs = .ok b ↔ visible gs = b.toList.map Cell.glyph) ∧
      ((∃ c, ofGlyphs gs = .ok c) ↔
        (visible gs).length = 64 ∧ ∀ g ∈ visible gs, g ∈ symbols) ∧
      (∀ before g after, visible gs = before ++ g :: after → (∀ x ∈ before, x ∈ symbols) →
        g ∉ symbols → ofGlyphs gs = .error (.unknownSymbol g)) ∧
      ((∀ g ∈ visible gs, g ∈ symbols) → (visible gs).length ≠ 64 →
        ofGlyphs gs = .error (.wrongSize (visible gs).length)) ∧
      ofDiagram b.diagram = .ok b ∧ b.rows.flatten = b.toList ∧
      (ofGlyphs gs = .ok b → glyphs b.diagram = List.intercalate [.char '\n']
        ((List.range 8).map fun r => ((visible gs).drop (8 * r)).take 8)) ∧
      ∀ before blanks after, gs = before ++ blanks ++ after → (∀ g ∈ blanks, g.isBlank = true) →
        ofGlyphs gs = ofGlyphs (before ++ after) := by
  refine ⟨ofGlyphs_eq_ok_iff, ⟨?_, ?_⟩, ?_, ?_, ?_, b.flatten_rows, ?_, ?_⟩
  · rintro ⟨c, hc⟩
    rw [ofGlyphs_eq_ok_iff] at hc
    rw [forall_mem_symbols_iff, hc, List.length_map, length_toList]
    exact ⟨rfl, _, rfl⟩
  · rintro ⟨hlen, hall⟩
    obtain ⟨cs, hcs⟩ := forall_mem_symbols_iff.1 hall
    rw [hcs, List.length_map] at hlen
    obtain ⟨c, rfl⟩ := exists_toList hlen
    exact ⟨c, ofGlyphs_eq_ok_iff.2 hcs⟩
  · intro before g after hgs hbefore hg
    obtain ⟨cs, rfl⟩ := forall_mem_symbols_iff.1 hbefore
    exact ofGlyphs_of_unknown hgs hg
  · intro hall hlen
    obtain ⟨cs, hcs⟩ := forall_mem_symbols_iff.1 hall
    rw [hcs, List.length_map] at hlen ⊢
    rw [ofGlyphs_of_cells hcs, ofCells_of_length_ne hlen]
  · exact ofGlyphs_eq_ok_iff.2 b.visible_diagram
  · intro h
    rw [glyphs_diagram, ofGlyphs_eq_ok_iff.1 h, rows_eq, List.map_map]
    simp only [Function.comp_def, List.map_drop, List.map_take]
  · rintro before blanks after rfl hblanks
    have hvisible : visible (before ++ blanks ++ after) = visible (before ++ after) := by
      rw [visible_append, visible_append, visible_append, visible_of_blank hblanks,
        List.append_nil]
    rw [ofGlyphs_eq, ofGlyphs_eq, hvisible]

end Board
end Reversi
