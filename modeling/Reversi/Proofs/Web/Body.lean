import Mathlib.Data.Fintype.Basic
import Mathlib.Tactic.FinCases
import Mathlib.Tactic.SplitIfs
import Reversi.Web.Call

/-!
# Reversi.Proofs.Web.Body

The body of a placement, written and read back.

* `Datum.readText_escaped`: the reader undoes what the writer does to a string.
* `Datum.readMembers_more`, `Datum.readMembers_last`: one member of a record at a time.
* `MoveForm.body`, `MoveForm.said`: the body by which a client places a disc, and what it says.
* `Datum.read_body`: this is what is read.
* `MoveForm.ofMembers_said`: and it is understood.
-/

namespace Reversi
namespace Datum

open Json

/-! ## Strings -/

/-- How a character is written in a string: after a mark, by its number, or as it is. -/
theorem escapeChar_cases (c : Char) :
    (∃ e, escapeChar c = ['\\', e] ∧ e ≠ 'u' ∧ simpleEscape? e = some c) ∨
      (c.toNat < 32 ∧ escapeChar c = ['\\', 'u', '0', '0', Nat.digitChar (c.toNat / 16),
        Nat.digitChar (c.toNat % 16)]) ∨
      (escapeChar c = [c] ∧ c ≠ '"' ∧ c ≠ '\\' ∧ ¬ c.toNat < 32) := by
  rw [escapeChar]
  split_ifs with hmark hline hreturn htab hcontrol
  · refine .inl ⟨c, rfl, ?_⟩
    rcases hmark with rfl | rfl <;> decide
  · exact .inl ⟨'n', rfl, by decide, hline ▸ rfl⟩
  · exact .inl ⟨'r', rfl, by decide, hreturn ▸ rfl⟩
  · exact .inl ⟨'t', rfl, by decide, htab ▸ rfl⟩
  · exact .inr (.inl ⟨hcontrol, rfl⟩)
  · exact .inr (.inr ⟨rfl, not_or.1 hmark |>.1, not_or.1 hmark |>.2, hcontrol⟩)

theorem hexValue?_digitChar : ∀ n < 16, Text.hexValue? (Nat.digitChar n) = some n := by
  decide

theorem unit?_control {n : Nat} (h : n < 32) (rest : List Glyph) :
    unit? (.char '0' :: .char '0' :: .char (Nat.digitChar (n / 16)) ::
      .char (Nat.digitChar (n % 16)) :: rest) = some (n, rest) := by
  have hzero : Text.hexValue? '0' = some 0 := by decide
  have hhigh := hexValue?_digitChar (n / 16) (by omega)
  have hlow := hexValue?_digitChar (n % 16) (by omega)
  simp only [unit?, hzero, hhigh, hlow, Option.bind_eq_bind, Option.bind_some, Option.pure_def,
    Option.some.injEq, Prod.mk.injEq, and_true]
  omega

/-- A number may be half of a pair, so the reader looks at the number that follows, if one does. -/
def Continues (gs : List Glyph) : Prop :=
  ∀ more, gs = .char '\\' :: .char 'u' :: more → (unit? more).isSome

theorem continues_escaped (cs : List Char) (rest : List Glyph) :
    Continues ((cs.flatMap escapeChar).map Glyph.char ++ .char '"' :: rest) := by
  intro more h
  cases cs with
  | nil => cases h
  | cons c cs =>
    rw [List.flatMap_cons, List.map_append, List.append_assoc] at h
    rcases escapeChar_cases c with ⟨e, hc, hu, -⟩ | ⟨hlt, hc⟩ | ⟨hc, -, hmark, -⟩
    · rw [hc] at h
      simp [hu] at h
    · rw [hc] at h
      simp only [List.map_cons, List.map_nil, List.cons_append, List.nil_append, List.cons.injEq,
        true_and] at h
      rw [← h, unit?_control hlt]
      rfl
    · rw [hc] at h
      simp [hmark] at h

theorem escaped?_control {c : Char} (h : c.toNat < 32) {rest : List Glyph}
    (hrest : Continues rest) :
    escaped? (.char '0' :: .char '0' :: .char (Nat.digitChar (c.toNat / 16)) ::
      .char (Nat.digitChar (c.toNat % 16)) :: rest) = some (.char c, rest) := by
  have hhigh : Text.isHigh c.toNat = false := by
    simp only [Text.isHigh, Bool.and_eq_false_iff, decide_eq_false_iff_not]
    omega
  have hlow : Text.isLow c.toNat = false := by
    simp only [Text.isLow, Bool.and_eq_false_iff, decide_eq_false_iff_not]
    omega
  have hcode : Glyph.ofCode c.toNat = .char c := by
    simp [Glyph.ofCode, hhigh, hlow]
  rw [escaped?, unit?_control h]
  simp only
  split
  · rename_i more
    obtain ⟨⟨low, rest'⟩, hunit⟩ := Option.isSome_iff_exists.1 (hrest more rfl)
    simp only [hunit, hhigh, Bool.false_and, Bool.false_eq_true, if_false, hcode]
  · rw [hcode]

theorem readText_escapeChar (fuel : Nat) (got : List Glyph) (c : Char) {rest : List Glyph}
    (hrest : Continues rest) :
    readText (fuel + 1) got ((escapeChar c).map Glyph.char ++ rest) =
      readText fuel (.char c :: got) rest := by
  rcases escapeChar_cases c with ⟨e, hc, hu, hsimple⟩ | ⟨hlt, hc⟩ | ⟨hc, hquote, hmark, hlt⟩
  · rw [hc]
    simp [readText, hsimple]
  · rw [hc]
    simp [readText, escaped?_control hlt hrest]
  · rw [hc, List.map_singleton, List.singleton_append, readText]
    · exact if_neg hlt
    · simpa using hquote
    · simp [hmark]
    · simp [hmark]
    · simp [hmark]

theorem readText_escaped (cs : List Char) {fuel : Nat} (h : cs.length < fuel)
    (got rest : List Glyph) :
    readText fuel got ((cs.flatMap escapeChar).map Glyph.char ++ .char '"' :: rest) =
      some (got.reverse ++ cs.map Glyph.char, rest) := by
  induction cs generalizing fuel got with
  | nil =>
    obtain ⟨fuel, rfl⟩ : ∃ m, fuel = m + 1 := ⟨fuel - 1, by simp at h; omega⟩
    simp [readText]
  | cons c cs ih =>
    obtain ⟨fuel, rfl⟩ : ∃ m, fuel = m + 1 := ⟨fuel - 1, by simp at h; omega⟩
    rw [List.flatMap_cons, List.map_append, List.append_assoc,
      readText_escapeChar fuel got c (continues_escaped cs rest), ih (by simpa using h)]
    simp

theorem length_le_escaped (cs : List Char) : cs.length ≤ (cs.flatMap escapeChar).length := by
  induction cs with
  | nil => exact Nat.le_refl 0
  | cons c cs ih =>
    rw [List.flatMap_cons, List.length_append, List.length_cons]
    rcases escapeChar_cases c with ⟨e, hc, -⟩ | ⟨-, hc⟩ | ⟨hc, -⟩ <;> rw [hc] <;>
      simp only [List.length_cons, List.length_nil] <;> omega

/-! ## Members -/

def quotedGlyphs (s : String) (rest : List Glyph) : List Glyph :=
  .char '"' :: ((s.toList.flatMap escapeChar).map Glyph.char ++ .char '"' :: rest)

variable {fuel room : Nat} {got : List (List Glyph × Datum)} {rest value : List Glyph} {x : Datum}

theorem readValue_quoted (s : String) (h : s.toList.length ≤ fuel) (rest : List Glyph) :
    readValue (fuel + 1) room (quotedGlyphs s rest) = .ok (.ofString s, rest) := by
  rw [quotedGlyphs, readValue]
  simp only [readText_escaped s.toList (Nat.lt_succ_of_le h)]
  rfl

theorem readValue_digit (n : Fin 8) (rest : List Glyph) :
    readValue (fuel + 1) room (.char (Nat.digitChar n) :: .char ',' :: rest) =
      .ok (.number n.val, .char ',' :: rest) := by
  fin_cases n <;> rfl

theorem skipBlank_digit (n : Fin 8) (rest : List Glyph) :
    skipBlank (.char (Nat.digitChar n) :: rest) = .char (Nat.digitChar n) :: rest := by
  fin_cases n <;> rfl

theorem readMembers_more (name : String) (h : name.toList.length ≤ fuel)
    (hblank : skipBlank value = value)
    (hvalue : readValue fuel room value = .ok (x, .char ',' :: rest)) :
    readMembers (fuel + 1) room got (quotedGlyphs name (.char ':' :: value)) =
      readMembers fuel room ((Text.glyphs name, x) :: got) (skipBlank rest) := by
  have hcolon : skipBlank (.char ':' :: value) = .char ':' :: value := rfl
  have hcomma : skipBlank (.char ',' :: rest) = .char ',' :: rest := rfl
  rw [quotedGlyphs, readMembers]
  simp only [readText_escaped name.toList (Nat.lt_succ_of_le h), hcolon, hblank, hvalue, hcomma]
  rfl

theorem readMembers_last (name : String) (h : name.toList.length ≤ fuel)
    (hblank : skipBlank value = value)
    (hvalue : readValue fuel room value = .ok (x, .char '\x7d' :: rest)) :
    readMembers (fuel + 1) room got (quotedGlyphs name (.char ':' :: value)) =
      .ok (.ofMembers ((Text.glyphs name, x) :: got).reverse, rest) := by
  have hcolon : skipBlank (.char ':' :: value) = .char ':' :: value := rfl
  have hbrace : skipBlank (.char '\x7d' :: rest) = .char '\x7d' :: rest := rfl
  rw [quotedGlyphs, readMembers]
  simp only [readText_escaped name.toList (Nat.lt_succ_of_le h), hcolon, hblank, hvalue, hbrace]
  rfl

end Datum

/-! ## The body of a placement -/

/-- The body by which a client places a disc. -/
def MoveForm.body (square : Square) (player : String) : String :=
  (Json.obj [("r", .nat square.row), ("c", .nat square.col), ("player", .str player)]).render

def MoveForm.said (square : Square) (player : String) : List (List Glyph × Datum) :=
  [(Text.glyphs "r", .number square.row.val), (Text.glyphs "c", .number square.col.val),
    (Text.glyphs "player", .ofString player)]

namespace Datum

theorem render_digit (n : Fin 8) : (Json.nat n.val).render.toList = [Nat.digitChar n] := by
  fin_cases n <;> rfl

theorem glyphs_renderString (s : String) (rest : List Glyph) :
    Text.glyphs (Json.renderString s) ++ rest = quotedGlyphs s rest := by
  simp [Text.glyphs, Json.renderString, quotedGlyphs]

theorem glyphs_body (square : Square) (player : String) :
    Text.glyphs (MoveForm.body square player) = .char '\x7b' ::
      quotedGlyphs "r" (.char ':' :: .char (Nat.digitChar square.row) :: .char ',' ::
        quotedGlyphs "c" (.char ':' :: .char (Nat.digitChar square.col) :: .char ',' ::
          quotedGlyphs "player" (.char ':' :: quotedGlyphs player [.char '\x7d']))) := by
  simp only [← glyphs_renderString]
  simp [MoveForm.body, Json.render, Json.renderFields, Text.glyphs, render_digit]

/-- The first four bytes tell the encoding. -/
theorem decode?_body (square : Square) (player : String) :
    Text.decode? (MoveForm.body square player) =
      some (Text.glyphs (MoveForm.body square player)) := by
  have hname : Json.renderString "r" = "\"r\"" := by decide
  obtain ⟨rest, hrest⟩ : ∃ rest, MoveForm.body square player = "\x7b\"r\"" ++ rest := by
    refine ⟨":" ++ ((Json.nat square.row).render ++ ("," ++ (Json.renderFields
      [("c", .nat square.col), ("player", .str player)] ++ "\x7d"))), ?_⟩
    simp only [MoveForm.body, Json.render, Json.renderFields, hname, ← String.append_assoc]
    rfl
  have hbytes : (MoveForm.body square player).toUTF8.data.toList =
      0x7b :: 0x22 :: 0x72 :: 0x22 :: rest.toUTF8.data.toList := by
    rw [hrest]
    simp only [String.toUTF8, String.toByteArray_append, ByteArray.data_append,
      Array.toList_append]
    rfl
  have hencoding : Text.Encoding.ofBytes (0x7b :: 0x22 :: 0x72 :: 0x22 ::
      rest.toUTF8.data.toList) = .utf8 := rfl
  simp only [Text.decode?, hbytes, hencoding, glyphs_body]
  rfl

/-- No two members have one name. -/
theorem ofMembers_said (square : Square) (player : String) :
    ofMembers (MoveForm.said square player) = .record (MoveForm.said square player) := by
  have hrc : Text.glyphs "r" ≠ Text.glyphs "c" := by decide
  have hrp : Text.glyphs "r" ≠ Text.glyphs "player" := by decide
  have hcp : Text.glyphs "c" ≠ Text.glyphs "player" := by decide
  simp [MoveForm.said, ofMembers, put, hrc, hrp, hcp]

theorem readMembers_body (square : Square) {player : String} {fuel : Nat}
    (h : player.toList.length ≤ fuel) :
    readMembers (fuel + 9) 963 [] (quotedGlyphs "r" (.char ':' ::
      .char (Nat.digitChar square.row) :: .char ',' :: quotedGlyphs "c" (.char ':' ::
        .char (Nat.digitChar square.col) :: .char ',' :: quotedGlyphs "player" (.char ':' ::
          quotedGlyphs player [.char '\x7d'])))) =
      .ok (.record (MoveForm.said square player), []) := by
  rw [readMembers_more "r" (by simp) (skipBlank_digit _ _) (readValue_digit square.row _)]
  change readMembers (fuel + 8) 963 _ (quotedGlyphs "c" _) = _
  rw [readMembers_more "c" (by simp) (skipBlank_digit _ _) (readValue_digit square.col _)]
  change readMembers (fuel + 7) 963 _ (quotedGlyphs "player" _) = _
  rw [readMembers_last "player" (by simp) rfl (readValue_quoted player (by omega) _)]
  exact congrArg (fun x => Except.ok (x, [])) (ofMembers_said square player)

/-- The body is read as a record. -/
theorem read_body (square : Square) (player : String) :
    read (MoveForm.body square player) = .ok (.record (MoveForm.said square player)) := by
  have hlen : player.toList.length + 4 ≤ (Text.glyphs (MoveForm.body square player)).length := by
    have hescaped := length_le_escaped player.toList
    simp only [glyphs_body, quotedGlyphs, List.length_cons, List.length_append, List.length_map]
    omega
  obtain ⟨fuel, hfuel, hplayer⟩ : ∃ fuel,
      2 * (Text.glyphs (MoveForm.body square player)).length + 2 = fuel + 10 ∧
        player.toList.length ≤ fuel := ⟨_, (Nat.sub_add_cancel (by omega)).symm, by omega⟩
  have hvalue : readValue (fuel + 10) maxNesting
      (skipBlank (Text.glyphs (MoveForm.body square player))) =
        .ok (.record (MoveForm.said square player), []) := by
    rw [glyphs_body]
    exact readMembers_body square hplayer
  simp only [read, decode?_body, hfuel, hvalue]
  rfl

end Datum

theorem MoveForm.ofMembers_said (square : Square) {player : String} (h : player ≠ "") :
    ofMembers (said square player) = .ok (square, player) := by
  have hcoordinate : ∀ n : Fin 8, Field.coordinate (.number n.val) = .ok n := by decide
  have hplayer : Field.playerName (.ofString player) = .ok player := by
    simp [Field.playerName, Datum.ofString, h]
  have hr : Datum.member? "r" (said square player) = some (.number square.row.val) := rfl
  have hc : Datum.member? "c" (said square player) = some (.number square.col.val) := rfl
  have hp : Datum.member? "player" (said square player) = some (.ofString player) := rfl
  simp only [ofMembers, Field.named, hr, hc, hp, hcoordinate, hplayer]
  rfl

end Reversi
