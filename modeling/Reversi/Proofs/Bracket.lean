import Mathlib.Data.Finset.Card
import Mathlib.Data.Fintype.Basic
import Mathlib.Data.Set.Card
import Reversi.Proofs.Geometry
import Reversi.Rules

/-!
# Reversi.Proofs.Bracket

The rule of the game in terms of places, without any scanning: a placement turns the discs of
every run that it brackets together with a disc of the same side.

* `Board.Bracketed`: a run of opposing discs between a square and a disc of the mover.
* `Board.Turns`: a placement turns the disc on a square; `Board.Playable`: it turns some disc.
* `Board.mem_flips_iff`, `Board.isLegal_iff_playable`: the scanning functions follow the rule.
* `Board.isTerminal_iff`: the game is over when neither side can move.
* `Board.get_place`: what stands on each square after a placement; `Board.free_of_place`: no square
  becomes free.
* `Board.count_total`: discs and free squares make up the board.
* `Board.count_place_own`, `Board.empties_place`: how many discs a placement adds.
* `Outcome.Fits`: the outcome follows from the numbers of discs.
-/

namespace Reversi
namespace Board

/-- The place is on the board and has this content. -/
def Holds (b : Board) (p : Position) (c : Cell) : Prop := ∃ s : Square, s.position = p ∧ b.get s = c

/-- In direction `d` the `k` nearest places hold opposing discs and the next one a disc of
`side`. -/
structure Bracketed (b : Board) (side : Side) (s : Square) (d : Direction) (k : Nat) : Prop where
  run : ∀ j, 1 ≤ j → j ≤ k → b.Holds (s.away d j) side.opponent.disc
  closed : b.Holds (s.away d (k + 1)) side.disc

/-- A disc of `side` on `s` would turn the disc on `t`. -/
def Turns (b : Board) (side : Side) (s t : Square) : Prop :=
  ∃ d k i, b.Bracketed side s d k ∧ 1 ≤ i ∧ i ≤ k ∧ t.position = s.away d i

/-- The square is free and a disc of `side` there would turn something. -/
def Playable (b : Board) (side : Side) (s : Square) : Prop :=
  b.get s = .empty ∧ ∃ t, b.Turns side s t

variable {b : Board} {side : Side} {s t : Square}

theorem holds_iff {p : Position} {c : Cell} :
    b.Holds p c ↔ ∃ s, p.square? = some s ∧ b.get s = c :=
  exists_congr fun _ => and_congr_left fun _ => Position.square?_eq_some_iff.symm

theorem Turns.get_eq (h : b.Turns side s t) : b.get t = side.opponent.disc := by
  obtain ⟨d, k, i, hb, h1, hk, ht⟩ := h
  obtain ⟨t', ht', hget⟩ := hb.run i h1 hk
  rw [Square.position_injective (ht.trans ht'.symm), hget]

/-! ## The scan follows the rule -/

theorem run?_eq_some_iff {ray l : List Square} :
    b.run? side ray = some l ↔ ∃ c rest, ray = l ++ c :: rest ∧
      (∀ x ∈ l, b.get x = side.opponent.disc) ∧ b.get c = side.disc := by
  induction ray generalizing l with
  | nil => simp [run?]
  | cons x ray ih =>
    rw [run?]
    by_cases hown : b.get x = side.disc
    · rw [if_pos hown]
      constructor
      · intro h
        cases h
        exact ⟨x, ray, rfl, fun y hy => (List.not_mem_nil hy).elim, hown⟩
      · rintro ⟨c, rest, hl, hrun, -⟩
        cases l with
        | nil => rfl
        | cons y l =>
          cases hl
          exact absurd ((hrun x List.mem_cons_self).symm.trans hown) side.disc_opponent_ne
    · rw [if_neg hown]
      by_cases hopp : b.get x = side.opponent.disc
      · rw [if_pos hopp, Option.map_eq_some_iff]
        constructor
        · rintro ⟨l', hl', rfl⟩
          obtain ⟨c, rest, rfl, hrun, hc⟩ := ih.1 hl'
          exact ⟨c, rest, rfl, List.forall_mem_cons.2 ⟨hopp, hrun⟩, hc⟩
        · rintro ⟨c, rest, hl, hrun, hc⟩
          cases l with
          | nil =>
            cases hl
            exact absurd hc hown
          | cons y l =>
            cases hl
            exact ⟨l, ih.2 ⟨c, rest, rfl, (List.forall_mem_cons.1 hrun).2, hc⟩, rfl⟩
      · rw [if_neg hopp]
        constructor
        · intro h
          cases h
        · rintro ⟨c, rest, hl, hrun, hc⟩
          cases l with
          | nil =>
            cases hl
            exact absurd hc hown
          | cons y l =>
            cases hl
            exact absurd (hrun x List.mem_cons_self) hopp

theorem square?_of_run? {d : Direction} {l : List Square} (h : b.run? side (s.ray d) = some l)
    {i : Nat} (hi : i < l.length) : (s.away d (i + 1)).square? = some l[i] := by
  obtain ⟨c, rest, hray, -, -⟩ := run?_eq_some_iff.1 h
  rw [← Square.ray_getElem?, hray, List.getElem?_append_left hi, List.getElem?_eq_getElem]

theorem bracketed_of_run? {d : Direction} {l : List Square} (h : b.run? side (s.ray d) = some l) :
    b.Bracketed side s d l.length := by
  obtain ⟨c, rest, hray, hrun, hc⟩ := run?_eq_some_iff.1 h
  refine ⟨fun j h1 hj => holds_iff.2 ?_, holds_iff.2 ⟨c, ?_, hc⟩⟩
  · obtain ⟨i, rfl⟩ : ∃ i, j = i + 1 := ⟨j - 1, by omega⟩
    exact ⟨l[i], square?_of_run? h (by omega), hrun _ (List.getElem_mem _)⟩
  · rw [← Square.ray_getElem?, hray, List.getElem?_append_right (Nat.le_refl _), Nat.sub_self]
    rfl

theorem run?_of_bracketed {d : Direction} {k : Nat} (h : b.Bracketed side s d k) :
    b.run? side (s.ray d) = some ((s.ray d).take k) := by
  obtain ⟨c, hc, hown⟩ := holds_iff.1 h.closed
  rw [← Square.ray_getElem?] at hc
  obtain ⟨hk, hget⟩ := List.getElem?_eq_some_iff.1 hc
  refine run?_eq_some_iff.2 ⟨c, (s.ray d).drop (k + 1), ?_, fun x hx => ?_, hown⟩
  · rw [← hget, List.getElem_cons_drop, List.take_append_drop]
  · obtain ⟨i, hi, rfl⟩ := List.getElem_of_mem hx
    have hik : i < k := by
      rw [List.length_take] at hi
      omega
    obtain ⟨y, hy, hopp⟩ := holds_iff.1 (h.run (i + 1) (by omega) (by omega))
    rw [← Square.ray_getElem?] at hy
    rw [List.getElem_take, (List.getElem?_eq_some_iff.1 hy).2, hopp]

theorem mem_run?_iff {d : Direction} :
    t ∈ (b.run? side (s.ray d)).getD [] ↔
      ∃ k i, b.Bracketed side s d k ∧ 1 ≤ i ∧ i ≤ k ∧ t.position = s.away d i := by
  constructor
  · intro ht
    cases hl : b.run? side (s.ray d) with
    | none => simp [hl] at ht
    | some l =>
      rw [hl, Option.getD_some] at ht
      obtain ⟨i, hi, rfl⟩ := List.getElem_of_mem ht
      exact ⟨l.length, i + 1, bracketed_of_run? hl, by omega, by omega,
        Position.position_of_square? (square?_of_run? hl hi)⟩
  · rintro ⟨k, i, hb, h1, hk, ht⟩
    obtain ⟨j, rfl⟩ : ∃ j, i = j + 1 := ⟨i - 1, by omega⟩
    rw [← Position.square?_eq_some_iff, ← Square.ray_getElem?] at ht
    rw [run?_of_bracketed hb, Option.getD_some]
    refine List.mem_of_getElem? (i := j) ?_
    rw [List.getElem?_take_of_lt (by omega), ht]

theorem mem_flips_iff : t ∈ b.flips side s ↔ b.get s = .empty ∧ b.Turns side s t := by
  unfold flips
  split
  · rename_i hs
    rw [Square.rays_eq, List.mem_flatMap]
    simp only [List.mem_map, exists_exists_and_eq_and, mem_run?_iff]
    exact ⟨fun ⟨d, _, k, i, h⟩ => ⟨hs, d, k, i, h⟩,
      fun ⟨_, d, k, i, h⟩ => ⟨d, Direction.mem_all d, k, i, h⟩⟩
  · rename_i hs
    exact ⟨fun h => (List.not_mem_nil h).elim, fun h => absurd h.1 hs⟩

theorem isLegal_iff_playable : b.isLegal side s = true ↔ b.Playable side s := by
  rw [isLegal_iff, Playable, ← exists_and_left, Ne, List.eq_nil_iff_forall_not_mem, not_forall]
  exact exists_congr fun _ => not_not.trans mem_flips_iff

theorem mem_legalMoves_iff_playable : s ∈ b.legalMoves side ↔ b.Playable side s :=
  mem_legalMoves.trans isLegal_iff_playable

theorem hasLegalMove_iff_playable : b.hasLegalMove side = true ↔ ∃ s, b.Playable side s :=
  hasLegalMove_iff.trans (exists_congr fun _ => isLegal_iff_playable)

theorem hasLegalMove_of_mem (h : s ∈ b.legalMoves side) : b.hasLegalMove side = true :=
  hasLegalMove_iff.2 ⟨s, mem_legalMoves.1 h⟩

theorem isEmpty_legalMoves (h : b.hasLegalMove side = true) :
    (b.legalMoves side).isEmpty = false := by
  rw [List.isEmpty_eq_false_iff, Ne, legalMoves_eq_nil_iff, h]
  exact Bool.noConfusion

theorem hasLegalMove_eq_false_iff :
    b.hasLegalMove side = false ↔ ¬ ∃ s, b.Playable side s := by
  rw [← hasLegalMove_iff_playable, Bool.not_eq_true]

theorem isTerminal_iff : b.isTerminal = true ↔ ∀ side, b.hasLegalMove side = false := by
  rw [isTerminal, Bool.and_eq_true, Bool.not_eq_true', Bool.not_eq_true']
  constructor
  · rintro ⟨hblack, hwhite⟩ side
    cases side with
    | black => exact hblack
    | white => exact hwhite
  · intro h
    exact ⟨h .black, h .white⟩

/-! ## The board after a placement -/

theorem get_fill (b : Board) (side : Side) (squares : List Square) (t : Square) :
    (b.fill side squares).get t = if t ∈ squares then side.disc else b.get t := by
  induction squares generalizing b with
  | nil => simp [fill]
  | cons s squares ih =>
    change ((b.set s side.disc).fill side squares).get t = _
    rw [ih]
    by_cases hmem : t ∈ squares
    · rw [if_pos hmem, if_pos (List.mem_cons_of_mem _ hmem)]
    · rw [if_neg hmem]
      by_cases hts : t = s
      · subst hts
        rw [get_set_self, if_pos List.mem_cons_self]
      · rw [get_set_ne (Ne.symm hts), if_neg (by simp [hts, hmem])]

theorem get_place (b : Board) (side : Side) (s t : Square) :
    (b.place side s).get t = if t = s ∨ t ∈ b.flips side s then side.disc else b.get t := by
  simp only [place, get_fill, List.mem_cons]

theorem get_place_of_turns (hs : b.get s = .empty) (h : b.Turns side s t) :
    (b.place side s).get t = side.disc := by
  rw [get_place, if_pos (.inr (mem_flips_iff.2 ⟨hs, h⟩))]

theorem get_place_self (b : Board) (side : Side) (s : Square) :
    (b.place side s).get s = side.disc := by
  rw [get_place, if_pos (.inl rfl)]

theorem get_place_of_not_turns (hts : t ≠ s) (h : ¬ b.Turns side s t) :
    (b.place side s).get t = b.get t := by
  rw [get_place, if_neg]
  rintro (hts' | hmem)
  · exact hts hts'
  · exact h (mem_flips_iff.1 hmem).2

/-! ## Counting discs -/

theorem toList_eq_map (b : Board) : b.toList = Square.all.map b.get := by
  apply List.ext_getElem
  · simp [toList, Square.all]
  · intro i h₁ h₂
    simp [toList, Square.all, get, Square.get_eq_getElem]

theorem eq_of_get {b c : Board} (h : ∀ s, b.get s = c.get s) : b = c := by
  have hcells : b.toList = c.toList := by
    rw [toList_eq_map, toList_eq_map]
    exact List.map_congr_left fun s _ => h s
  have hsome : some b = some c := by
    rw [← ofCells?_toList b, ← ofCells?_toList c, hcells]
  exact Option.some.inj hsome

theorem count_eq_card (b : Board) (c : Cell) :
    b.count c = (Finset.univ.filter fun s => b.get s = c).card := by
  rw [count, toList_eq_map, List.count_eq_countP, List.countP_map, List.countP_eq_length_filter]
  congr 1

theorem count_total (b : Board) :
    b.count .black + b.count .white + b.empties = 64 := by
  have htotal : ∀ l : List Cell, l.count .black + l.count .white + l.count .empty = l.length := by
    intro l
    induction l with
    | nil => rfl
    | cons c l ih =>
      cases c <;> simp only [List.count_cons, List.length_cons] <;> simp <;> omega
  rw [← b.length_toList]
  exact htotal b.toList

/-- A placement adds one disc of the mover's, and those that it turns. -/
theorem count_place_own (h : b.Playable side s) :
    (b.place side s).count side.disc =
      b.count side.disc + 1 + {t | b.Turns side s t}.ncard := by
  classical
  have hturned : {t | b.Turns side s t} =
      ((Finset.univ.filter fun t => b.Turns side s t : Finset Square) : Set Square) := by
    ext t
    simp
  have hcells : (Finset.univ.filter fun t => (b.place side s).get t = side.disc) =
      insert s ((Finset.univ.filter fun t => b.get t = side.disc) ∪
        Finset.univ.filter fun t => b.Turns side s t) := by
    ext t
    by_cases hts : t = s
    · subst hts
      simp [get_place_self]
    · by_cases hturn : b.Turns side s t
      · simp [get_place_of_turns h.1 hturn, hturn]
      · simp [get_place_of_not_turns hts hturn, hturn, hts]
  have hdisj : Disjoint (Finset.univ.filter fun t => b.get t = side.disc)
      (Finset.univ.filter fun t => b.Turns side s t) := by
    refine Finset.disjoint_filter.2 fun t _ hown hturn => ?_
    exact side.disc_opponent_ne (hturn.get_eq.symm.trans hown)
  have hfree : s ∉ (Finset.univ.filter fun t => b.get t = side.disc) ∪
      Finset.univ.filter fun t => b.Turns side s t := by
    simp only [Finset.mem_union, Finset.mem_filter, Finset.mem_univ, true_and, not_or]
    refine ⟨fun hown => side.disc_ne_empty (hown.symm.trans h.1), fun hturn => ?_⟩
    exact side.opponent.disc_ne_empty (hturn.get_eq.symm.trans h.1)
  rw [count_eq_card, count_eq_card, hturned, Set.ncard_coe_finset, hcells,
    Finset.card_insert_of_notMem hfree, Finset.card_union_of_disjoint hdisj]
  omega

theorem get_place_eq_empty_iff (h : b.get s = .empty) :
    (b.place side s).get t = .empty ↔ t ≠ s ∧ b.get t = .empty := by
  by_cases hts : t = s
  · subst hts
    simp [get_place_self, side.disc_ne_empty]
  · by_cases hturn : b.Turns side s t
    · simp [get_place_of_turns h hturn, hturn.get_eq, side.disc_ne_empty,
        side.opponent.disc_ne_empty]
    · simp [get_place_of_not_turns hts hturn, hts]

theorem free_of_place (hs : s ∈ b.legalMoves side) (ht : (b.place side s).get t = .empty) :
    b.get t = .empty :=
  ((get_place_eq_empty_iff (get_of_isLegal (mem_legalMoves.1 hs))).1 ht).2

/-- A placement on a free square takes one free square away. -/
theorem empties_place (h : b.get s = .empty) : (b.place side s).empties + 1 = b.empties := by
  have hcells : (Finset.univ.filter fun t => (b.place side s).get t = .empty) =
      (Finset.univ.filter fun t => b.get t = .empty).erase s := by
    ext t
    simp [get_place_eq_empty_iff h]
  have hs : s ∈ Finset.univ.filter fun t => b.get t = .empty := by simp [h]
  rw [empties, empties, count_eq_card, count_eq_card, hcells, Finset.card_erase_add_one hs]

theorem empties_place_of_legal (h : s ∈ b.legalMoves side) :
    (b.place side s).empties + 1 = b.empties :=
  empties_place (get_of_isLegal (mem_legalMoves.1 h))

theorem empties_pos (h : b.hasLegalMove side = true) : 0 < b.empties := by
  obtain ⟨s, hs⟩ := hasLegalMove_iff.1 h
  have := empties_place_of_legal (mem_legalMoves.2 hs)
  omega

end Board

/-! ## The outcome -/

/-- The outcome that the numbers of discs give. -/
def Outcome.Fits (b : Board) : Outcome → Prop
  | .won side => b.count side.opponent.disc < b.count side.disc
  | .draw => b.count Side.black.disc = b.count Side.white.disc

theorem Outcome.Fits.unique {b : Board} {o o' : Outcome} (h : o.Fits b) (h' : o'.Fits b) :
    o = o' := by
  rcases o with (_ | _) | _ <;> rcases o' with (_ | _) | _ <;>
    simp only [Outcome.Fits, Side.opponent] at h h' ⊢ <;> omega

theorem Board.outcome_fits (b : Board) : b.outcome.Fits b := by
  change Outcome.Fits b (if b.count .white < b.count .black then .won .black
    else if b.count .black < b.count .white then .won .white else .draw)
  by_cases hb : b.count .white < b.count .black
  · rw [if_pos hb]
    exact hb
  · rw [if_neg hb]
    by_cases hw : b.count .black < b.count .white
    · rw [if_pos hw]
      exact hw
    · rw [if_neg hw]
      exact Nat.le_antisymm (Nat.not_lt.1 hb) (Nat.not_lt.1 hw)

theorem Board.outcome_eq_iff {b : Board} {o : Outcome} : b.outcome = o ↔ o.Fits b :=
  ⟨fun h => h ▸ b.outcome_fits, fun h => b.outcome_fits.unique h⟩

end Reversi
