import Reversi.Proofs.Bracket

/-!
# Reversi.Proofs.Plies

Lines of play: legal placements and forced passes, one ply each.

* `Board.Leads b t k c u`: after `k` plies from `b` with `t` to move, `u` is to move on `c`.
* `Board.Expanded`: the positions that a search of some depth may store.
* `Board.Leads.side_eq`: the side to move depends only on whether the number of plies is even.
* `Board.Leads.passes`: every pass costs a ply that fills no square, and passes are rare: no two of
  them follow each other.
* `Board.Leads.length_le`: no line of play is longer than twice the number of free squares.
* `Board.Leads.plies_eq`: within four plies a position is reached after one number of plies only.
* `Board.plies`: all positions after a number of plies; `Board.expansions`: those that a search of
  some depth may store.
* `Board.Leads.eq_root`: where every placement ends the game there is only one position to search.
-/

namespace Reversi

namespace Board

inductive Leads (b : Board) (t : Side) : Nat → Board → Side → Prop where
  | here : Leads b t 0 b t
  | place {k : Nat} {c : Board} {u : Side} {s : Square} :
      Leads b t k c u → s ∈ c.legalMoves u → Leads b t (k + 1) (c.place u s) u.opponent
  | pass {k : Nat} {c : Board} {u : Side} :
      Leads b t k c u → c.hasLegalMove u = false → c.hasLegalMove u.opponent = true →
      Leads b t (k + 1) c u.opponent

/-- The position is fewer than `d` plies away and the side to move can move: a search of depth `d`
may store it. -/
def Expanded (b : Board) (t : Side) (d : Nat) (c : Board) (u : Side) : Prop :=
  c.hasLegalMove u = true ∧ ∃ k < d, Leads b t k c u

theorem Expanded.mono {b c : Board} {t u : Side} {d d' : Nat} (h : b.Expanded t d c u)
    (hd : d ≤ d') : b.Expanded t d' c u := by
  obtain ⟨hu, k, hk, hlead⟩ := h
  exact ⟨hu, k, by omega, hlead⟩

namespace Leads

variable {b c : Board} {t u : Side} {k : Nat}

theorem side_eq (h : Leads b t k c u) : u = if k % 2 = 0 then t else t.opponent := by
  induction h with
  | here => rfl
  | @place k c u s _ _ ih | @pass k c u _ _ _ ih =>
    subst ih
    rcases Nat.mod_two_eq_zero_or_one k with hk | hk
    · rw [if_pos hk, if_neg (by omega)]
    · rw [if_neg (by omega), if_pos (by omega), Side.opponent_opponent]

theorem mod_two_eq {c' : Board} {k' : Nat} (h : Leads b t k c u) (h' : Leads b t k' c' u) :
    k % 2 = k' % 2 := by
  have hu := h.side_eq
  rw [h'.side_eq] at hu
  have hne := t.opponent_ne
  rcases Nat.mod_two_eq_zero_or_one k with hk | hk <;>
    rcases Nat.mod_two_eq_zero_or_one k' with hk' | hk' <;> simp [hk, hk', hne, Ne.symm hne] at hu ⊢

/-- Plies are placements, which fill a square each, and passes. From a side that can move no two
passes follow each other and the first ply is a placement, so at most half of the plies are
passes. -/
theorem passes (h : Leads b t k c u) :
    ∃ p, k + c.empties = b.empties + p ∧ (b.hasLegalMove t = true →
      2 * p ≤ k ∧ (c.hasLegalMove u = false → 2 * p + 1 ≤ k)) := by
  induction h with
  | here => exact ⟨0, by omega, fun ht => ⟨Nat.le_refl 0, fun hu => by simp [ht] at hu⟩⟩
  | place _ hs ih =>
    obtain ⟨p, hp, hrare⟩ := ih
    have hfill := empties_place_of_legal hs
    refine ⟨p, by omega, fun ht => ?_⟩
    obtain ⟨hle, -⟩ := hrare ht
    exact ⟨by omega, fun _ => by omega⟩
  | pass _ hu ho ih =>
    obtain ⟨p, hp, hrare⟩ := ih
    refine ⟨p + 1, by omega, fun ht => ?_⟩
    have hstrict := (hrare ht).2 hu
    exact ⟨by omega, fun hno => by simp [ho] at hno⟩

theorem first (h : Leads b t (k + 1) c u) :
    (∃ s ∈ b.legalMoves t, Leads (b.place t s) t.opponent k c u) ∨
      (b.hasLegalMove t = false ∧ b.hasLegalMove t.opponent = true ∧
        Leads b t.opponent k c u) := by
  induction k generalizing c u with
  | zero =>
    cases h with
    | place h hs =>
      cases h
      exact .inl ⟨_, hs, .here⟩
    | pass h hu ho =>
      cases h
      exact .inr ⟨hu, ho, .here⟩
  | succ k ih =>
    cases h with
    | place h hs =>
      rcases ih h with ⟨s', hs', h'⟩ | ⟨hu, ho, h'⟩
      · exact .inl ⟨s', hs', h'.place hs⟩
      · exact .inr ⟨hu, ho, h'.place hs⟩
    | pass h hu ho =>
      rcases ih h with ⟨s', hs', h'⟩ | ⟨hu', ho', h'⟩
      · exact .inl ⟨s', hs', h'.pass hu ho⟩
      · exact .inr ⟨hu', ho', h'.pass hu ho⟩

theorem trans {j : Nat} {d : Board} {v : Side} (h : Leads b t k c u) (h' : Leads c u j d v) :
    Leads b t (k + j) d v := by
  induction h' with
  | here => exact h
  | place _ hs ih => exact .place ih hs
  | pass _ hu ho ih => exact .pass ih hu ho

theorem of_place {s : Square} (h : Leads (b.place t s) t.opponent k c u)
    (hs : s ∈ b.legalMoves t) : Leads b t (k + 1) c u := by
  rw [Nat.add_comm]
  exact (place .here hs).trans h

theorem of_pass (h : Leads b t.opponent k c u) (ht : b.hasLegalMove t = false)
    (ho : b.hasLegalMove t.opponent = true) : Leads b t (k + 1) c u := by
  rw [Nat.add_comm]
  exact (pass .here ht ho).trans h

theorem empties_le_add (h : Leads b t k c u) : b.empties ≤ k + c.empties := by
  obtain ⟨p, hp, -⟩ := h.passes
  omega

theorem passes_of_stuck (h : Leads b t k c u) (ht : b.hasLegalMove t = false) (hk : 0 < k) :
    ∃ p, k + c.empties = b.empties + p ∧ 1 ≤ p ∧ 2 * p ≤ k + 1 := by
  obtain ⟨n, rfl⟩ : ∃ n, k = n + 1 := ⟨k - 1, by omega⟩
  rcases h.first with ⟨s, hs, -⟩ | ⟨-, ho, h'⟩
  · rw [Board.legalMoves_eq_nil_iff.2 ht] at hs
    exact absurd hs List.not_mem_nil
  · obtain ⟨p, hp, hrare⟩ := h'.passes
    have := (hrare ho).1
    exact ⟨p + 1, by omega, by omega, by omega⟩

/-- A line of play has at most two plies for every free square, as no two passes follow each other.
A pass at the start does not make it longer: after a last pass somebody can move, so a square is
left. -/
theorem length_le (h : Leads b t k c u) : k ≤ 2 * b.empties := by
  cases ht : b.hasLegalMove t with
  | true =>
    obtain ⟨p, hp, hrare⟩ := h.passes
    have := (hrare ht).1
    omega
  | false =>
    cases k with
    | zero => exact Nat.zero_le _
    | succ k =>
      rcases h.first with ⟨s, hs, -⟩ | ⟨-, ho, h'⟩
      · rw [Board.legalMoves_eq_nil_iff.2 ht] at hs
        exact absurd hs List.not_mem_nil
      · obtain ⟨p, hp, hrare⟩ := h'.passes
        cases hu : c.hasLegalMove u with
        | true =>
          have := (hrare ho).1
          have := empties_pos hu
          omega
        | false =>
          have := (hrare ho).2 hu
          omega

theorem two_placements (h : Leads b t 2 c u) (hfill : c.empties + 2 = b.empties) :
    ∃ s₁ ∈ b.legalMoves t, ∃ s₂ ∈ (b.place t s₁).legalMoves t.opponent,
      c = (b.place t s₁).place t.opponent s₂ := by
  cases h with
  | place h hs₂ =>
    have hone := empties_place_of_legal hs₂
    cases h with
    | place h hs₁ =>
      cases h
      exact ⟨_, hs₁, _, hs₂, rfl⟩
    | pass h _ _ =>
      cases h
      omega
  | pass h _ _ =>
    have := h.empties_le_add
    omega

/-- Four plies that fill two squares, from a side that can move, are two placements of that side
and a pass after each. -/
theorem placements_of_one_side (h : Leads b t 4 c u) (ht : b.hasLegalMove t = true)
    (hfill : c.empties + 2 = b.empties) :
    ∃ s₁ ∈ b.legalMoves t, ∃ s₂ ∈ (b.place t s₁).legalMoves t,
      c = (b.place t s₁).place t s₂ := by
  cases h with
  | place h hs =>
    have hone := empties_place_of_legal hs
    obtain ⟨p, hp, hrare⟩ := h.passes
    have := (hrare ht).1
    omega
  | @pass _ _ u₃ h hu₃ _ =>
    cases h with
    | @pass _ _ u₂ h _ ho => simp [ho] at hu₃
    | @place _ c₂ u₂ s₂ h hs₂ =>
      have hone := empties_place_of_legal hs₂
      cases h with
      | place h hs =>
        have hfirst := empties_place_of_legal hs
        obtain ⟨p, hp, hrare⟩ := h.passes
        have := (hrare ht).1
        omega
      | pass h _ _ =>
        cases h with
        | place h hs₁ =>
          cases h
          rw [Side.opponent_opponent] at hs₂ ⊢
          exact ⟨_, hs₁, s₂, hs₂, rfl⟩
        | pass h hno _ =>
          cases h
          simp [ht] at hno

/-- The later of two placements by both sides shows a disc that one side alone cannot leave. -/
theorem place_opponent_ne (b : Board) (t : Side) {s₁ s₂ x y : Square}
    (hs₁ : s₁ ∈ b.legalMoves t) (hs₂ : s₂ ∈ (b.place t s₁).legalMoves t.opponent) :
    (b.place t s₁).place t.opponent s₂ ≠ (b.place t x).place t y := by
  intro h
  have hdisc : ((b.place t x).place t y).get s₂ = t.opponent.disc := by
    rw [← h, get_place_self]
  have hfree : b.get s₂ = .empty := free_of_place hs₁ (get_of_isLegal (mem_legalMoves.1 hs₂))
  rw [get_place, get_place, hfree] at hdisc
  split at hdisc
  · exact t.disc_opponent_ne hdisc.symm
  · split at hdisc
    · exact t.disc_opponent_ne hdisc.symm
    · exact t.opponent.disc_ne_empty hdisc.symm

theorem plies_eq {k' : Nat} (h : Leads b t k c u) (h' : Leads b t k' c u) (hk : k ≤ 4)
    (hk' : k' ≤ 4) : k = k' := by
  wlog hle : k < k' generalizing k k' with hwlog
  · rcases Nat.lt_trichotomy k k' with hlt | heq | hgt
    · exact absurd hlt hle
    · exact heq
    · exact (hwlog h' h hk' hk hgt).symm
  have hmod := h.mod_two_eq h'
  cases ht : b.hasLegalMove t with
  | true =>
    obtain ⟨p, hp, hrare⟩ := h.passes
    obtain ⟨p', hp', hrare'⟩ := h'.passes
    have := (hrare ht).1
    have := (hrare' ht).1
    obtain rfl : k = 2 := by omega
    obtain rfl : k' = 4 := by omega
    obtain ⟨s₁, hs₁, s₂, hs₂, hc⟩ := h.two_placements (by omega)
    obtain ⟨x, -, y, -, hc'⟩ := h'.placements_of_one_side ht (by omega)
    exact absurd (hc.symm.trans hc') (place_opponent_ne b t hs₁ hs₂)
  | false =>
    obtain ⟨p', hp', hpos', hrare'⟩ := h'.passes_of_stuck ht (by omega)
    rcases Nat.eq_zero_or_pos k with rfl | hpos
    · cases h
      omega
    · obtain ⟨p, hp, hpos, hrare⟩ := h.passes_of_stuck ht hpos
      omega

theorem of_over (h : Leads b t k c u) (hover : b.isTerminal = true) : k = 0 := by
  have hno := isTerminal_iff.1 hover
  cases k with
  | zero => rfl
  | succ k =>
    rcases h.first with ⟨s, hs, -⟩ | ⟨-, ho, -⟩
    · have ht := hasLegalMove_of_mem hs
      rw [hno t] at ht
      cases ht
    · rw [hno t.opponent] at ho
      cases ho

theorem eq_root (h : Leads b t k c u) (ht : b.hasLegalMove t = true)
    (hend : ∀ s ∈ b.legalMoves t, (b.place t s).isTerminal = true)
    (hu : c.hasLegalMove u = true) : k = 0 ∧ c = b ∧ u = t := by
  cases k with
  | zero =>
    cases h
    exact ⟨rfl, rfl, rfl⟩
  | succ k =>
    rcases h.first with ⟨s, hs, h'⟩ | ⟨hno, -⟩
    · obtain rfl := h'.of_over (hend s hs)
      cases h'
      rw [isTerminal_iff.1 (hend s hs)] at hu
      cases hu
    · simp [ht] at hno

end Leads

/-- The positions one ply on. -/
def onward (b : Board) (t : Side) : List (Board × Side) :=
  if b.hasLegalMove t then (b.legalMoves t).map fun s => (b.place t s, t.opponent)
  else if b.hasLegalMove t.opponent then [(b, t.opponent)]
  else []

/-- The positions after `k` plies, each as often as there are ways to it. -/
def plies (b : Board) (t : Side) : Nat → List (Board × Side)
  | 0 => [(b, t)]
  | k + 1 => (plies b t k).flatMap fun x => x.1.onward x.2

theorem mem_onward_of_place {b : Board} {t : Side} {s : Square} (hs : s ∈ b.legalMoves t) :
    (b.place t s, t.opponent) ∈ b.onward t := by
  simp only [onward, if_pos (hasLegalMove_of_mem hs)]
  exact List.mem_map_of_mem hs

theorem mem_onward_of_pass {b : Board} {t : Side} (ht : b.hasLegalMove t = false)
    (ho : b.hasLegalMove t.opponent = true) : (b, t.opponent) ∈ b.onward t := by
  simp [onward, ht, ho]

theorem Leads.mem_plies {b c : Board} {t u : Side} {k : Nat} (h : Leads b t k c u) :
    (c, u) ∈ b.plies t k := by
  induction h with
  | here => exact List.mem_cons_self
  | place _ hs ih => exact List.mem_flatMap.2 ⟨_, ih, mem_onward_of_place hs⟩
  | pass _ hu ho ih => exact List.mem_flatMap.2 ⟨_, ih, mem_onward_of_pass hu ho⟩

def expansionsFrom : Nat → List (Board × Side) → List (Board × Side)
  | 0, _ => []
  | d + 1, positions =>
    positions.filter (fun x => x.1.hasLegalMove x.2) ++
      expansionsFrom d (positions.flatMap fun x => x.1.onward x.2)

/-- The positions that a search of depth `d` may store, each as often as there are ways to it. -/
def expansions (b : Board) (t : Side) (d : Nat) : List (Board × Side) := expansionsFrom d [(b, t)]

theorem Leads.mem_expansionsFrom {b c : Board} {t u : Side} {k d : Nat} (h : Leads b t k c u)
    (hk : k < d) (hu : c.hasLegalMove u = true) {positions : List (Board × Side)}
    (hmem : (b, t) ∈ positions) : (c, u) ∈ expansionsFrom d positions := by
  induction d generalizing b t k positions with
  | zero => omega
  | succ d ih =>
    rw [expansionsFrom, List.mem_append]
    cases k with
    | zero =>
      cases h
      exact .inl (List.mem_filter.2 ⟨hmem, hu⟩)
    | succ k =>
      rcases h.first with ⟨s, hs, h'⟩ | ⟨ht, ho, h'⟩
      · exact .inr (ih h' (by omega) (List.mem_flatMap.2 ⟨_, hmem, mem_onward_of_place hs⟩))
      · exact .inr (ih h' (by omega) (List.mem_flatMap.2 ⟨_, hmem, mem_onward_of_pass ht ho⟩))

theorem Expanded.mem_expansions {b c : Board} {t u : Side} {d : Nat} (h : b.Expanded t d c u) :
    (c, u) ∈ b.expansions t d := by
  obtain ⟨hu, k, hk, hlead⟩ := h
  exact hlead.mem_expansionsFrom hk hu List.mem_cons_self

/-- White takes Black's only disc from either of two squares; Black cannot move. -/
def cornered : Board :=
  let e := Cell.empty
  let x := Cell.black
  let o := Cell.white
  ⟨#v[
    o, o, o, o, o, o, o, o,
    o, o, o, o, o, e, x, o,
    o, o, o, o, o, o, e, o,
    o, o, o, o, o, o, o, o,
    o, o, o, o, o, o, o, o,
    o, o, o, o, o, o, o, o,
    o, o, o, o, o, o, o, o,
    o, o, o, o, o, o, o, o]⟩

theorem cornered_moves :
    cornered.hasLegalMove .black = false ∧ cornered.hasLegalMove .white = true := by
  decide +kernel

theorem cornered_ends :
    ∀ s ∈ cornered.legalMoves .white, (cornered.place .white s).isTerminal = true := by
  decide +kernel

end Board
end Reversi
