import Reversi.Proofs.Engine.Choice

/-!
# Reversi.Proofs.Engine.Kept

Choices of small depth with a table that is kept from one choice to the next.

The level of an entry is its depth less the number of free squares. Along a line of play from the
board of a choice it is highest at the start, and every pass lowers it by one. As the squares fill
up from choice to choice, the entries of earlier searches stay below the level of the next one.

* `Search.InStep`: the depth has the parity that a search of full depth has with this side to move.
* `Search.Levelled`: an entry is not above a level, and truthful when it is at the level and in
  step.
* `Search.Final`: the entries during the last search of a choice, which may also use entries one
  level lower, those of positions after a pass.
* `Engine.choose_best`: up to depth 4 a choice is a best placement at its full depth, and leaves the
  table in order for the next choice.
-/

namespace Reversi

/-- The placement is legal and no other one leads to a greater plain value. -/
structure Board.Best (b : Board) (side : Side) (n : Nat) (s : Square) : Prop where
  legal : s ∈ b.legalMoves side
  greatest : ∀ s' ∈ b.legalMoves side,
    (b.place side s').minimax side n side.opponent ≤ (b.place side s).minimax side n side.opponent

namespace Search

variable {p : Search} {root : Board} {d D : Nat} {W : Board → Side → Prop}

/-- The depth of the entry is `D`, changed by an even number for the player and by an odd one for
the opponent. -/
def InStep (p : Search) (D : Nat) (u : Side) (e : Entry) : Prop :=
  (e.depth + (if u = p.player then 0 else 1) - D) % 2 = 0

structure Levelled (p : Search) (D : Nat) (m : Int) (c : Board) (u : Side) (e : Entry) : Prop where
  le : e.depth - c.empties ≤ m
  truthful : e.depth - c.empties = m → p.InStep D u e →
    e.Truthful (c.minimax p.player e.depth.toNat u)

theorem Levelled.mono {m m' : Int} {c : Board} {u : Side} {e : Entry} (h : p.Levelled D m c u e)
    (hm : m ≤ m') : p.Levelled D m' c u e := by
  refine ⟨h.le.trans hm, fun hlevel => h.truthful ?_⟩
  have := h.le
  omega

structure Final (p : Search) (D : Nat) (m : Int) (c : Board) (u : Side) (e : Entry) : Prop where
  le : e.depth - c.empties ≤ m
  top : e.depth - c.empties = m → p.InStep D u e ∧ e.Truthful (c.minimax p.player e.depth.toNat u)
  next : e.depth - c.empties = m - 1 → p.InStep D u e →
    e.Truthful (c.minimax p.player e.depth.toNat u)

theorem Levelled.final {m : Int} {c : Board} {u : Side} {e : Entry}
    (h : p.Levelled D (m - 1) c u e) : p.Final D m c u e := by
  have := h.le
  exact ⟨by omega, fun htop => by omega, h.truthful⟩

theorem Final.levelled {m : Int} {c : Board} {u : Side} {e : Entry} (h : p.Final D m c u e) :
    p.Levelled D m c u e :=
  ⟨h.le, fun htop _ => (h.top htop).2⟩

theorem inStep_iff {k n : Nat} {c : Board} {u : Side} {e : Entry}
    (h : root.Leads p.player k c u) (he : e.depth = n) :
    p.InStep D u e ↔ ((k + n : Int) - D) % 2 = 0 := by
  have hside := h.side_eq
  have hne := p.player.opponent_ne
  unfold InStep
  rcases Nat.mod_two_eq_zero_or_one k with hk | hk
  · rw [if_pos hk] at hside
    rw [if_pos hside]
    omega
  · rw [if_neg (by omega)] at hside
    rw [if_neg (by rw [hside]; exact hne)]
    omega

/-- A search that is less deep than the last one of a choice. Its values do not matter, as it
writes nothing that is both at the level and in step. -/
def risingRegime (hp : p.Orderly) (hkeys : p.KeysApart W)
    (hW : ∀ {c u}, root.Expanded p.player d c u → W c u) (hd : d < D) :
    Regime p root p.player d where
  Watched := W
  Allowed := p.Levelled D ((D : Int) - root.empties - 1)
  Settled _ _ _ := False
  orderly := hp
  keysApart := hkeys
  watched := hW
  settled_place := fun h _ => h
  settled_pass := fun h _ _ => h
  truthful := fun _ _ h => h.elim
  allowed := by
    intro k c u n e h hk _ hdepth _
    obtain ⟨q, hq, -⟩ := h.passes
    refine ⟨by omega, fun hlevel hstep => ?_⟩
    rw [inStep_iff h hdepth] at hstep
    omega

/-- The last search of a choice. Within four plies at most one pass is followed by another ply, so
the entries in use are at the level or one below it, and in step. -/
def finalRegime (hp : p.Orderly) (hkeys : p.KeysApart W)
    (hW : ∀ {c u}, root.Expanded p.player D c u → W c u) (hD : D ≤ 4)
    (hroot : root.hasLegalMove p.player = true) : Regime p root p.player D where
  Watched := W
  Allowed := p.Final D ((D : Int) - root.empties)
  Settled _ _ _ := True
  orderly := hp
  keysApart := hkeys
  watched := hW
  settled_place := fun _ _ => trivial
  settled_pass := fun _ _ _ => trivial
  truthful := by
    intro k c u n e h hk _ _ hallowed hdeep
    obtain ⟨q, hq, hrare⟩ := h.passes
    have hfew := (hrare hroot).1
    have hle := hallowed.le
    have hexact : e.depth = ((n + 1 : Nat) : Int) →
        e.Truthful (c.minimax p.player (n + 1) u) := by
      intro hdepth
      have htrue : e.Truthful (c.minimax p.player e.depth.toNat u) := by
        by_cases htop : e.depth - c.empties = (D : Int) - root.empties
        · exact (hallowed.top htop).2
        · exact hallowed.next (by omega) ((inStep_iff h hdepth).2 (by omega))
      rwa [hdepth, Int.toNat_natCast] at htrue
    by_cases hdepth : e.depth = ((n + 1 : Nat) : Int)
    · exact hexact hdepth
    -- an entry at the level after a pass would be deeper by one ply, so out of step
    · have hdepth' : e.depth = ((n + 2 : Nat) : Int) := by omega
      have hstep := (hallowed.top (by omega)).1
      rw [inStep_iff h hdepth'] at hstep
      omega
  allowed := by
    intro k c u n e h hk _ hdepth htrue
    obtain ⟨q, hq, -⟩ := h.passes
    have htrue' : e.Truthful (c.minimax p.player e.depth.toNat u) := by
      rw [hdepth, Int.toNat_natCast]
      exact htrue trivial
    exact ⟨by omega, fun _ => ⟨(inStep_iff h hdepth).2 (by omega), htrue'⟩, fun _ _ => htrue'⟩

end Search

namespace Engine

/-- Up to depth 4 a choice is a best placement at full depth, whatever earlier choices of the game
left in the table. -/
theorem choose_best {e : Engine} {b : Board} {c : Choice} {D : Nat} {W : Board → Side → Prop}
    (h : e.choose b none = .ok c) (hdepth : e.depth = D) (hD : 1 ≤ D) (hD' : D ≤ 4)
    (hkeys : e.search.KeysApart W) (hW : ∀ {c u}, b.Expanded e.side D c u → W c u)
    (hkept : e.search.Remembers W (e.search.Levelled D ((D : Int) - b.empties - 1)) e.table) :
    b.Best e.side (D - 1) c.square ∧
      e.search.Remembers W (e.search.Levelled D ((D : Int) - b.empties)) c.engine.table := by
  obtain ⟨d, rfl⟩ : ∃ d, D = d + 1 := ⟨D - 1, by omega⟩
  have hlegal := choose_legal h
  have hmove := Board.hasLegalMove_of_mem hlegal
  have hrising : ∀ d' ≤ d, ∃ R : Search.Regime e.search b e.side d', R.Keeps =
      e.search.Remembers W (e.search.Levelled (d + 1) (((d + 1 : Nat) : Int) - b.empties - 1)) :=
    fun d' hd' => ⟨Search.risingRegime e.search_orderly hkeys (fun h => hW (h.mono (by omega)))
      (by omega), rfl⟩
  let last := Search.finalRegime e.search_orderly hkeys hW hD' hmove
  rcases choose_sound h hdepth hkept (hW ⟨hmove, 0, by omega, .here⟩)
      (fun h => by have := h.le; omega) hrising last
      (fun hbefore => hbefore.mono fun _ h => h.final)
    with ⟨hsingle, he⟩ | ⟨hafter, hbest⟩
  · rw [he]
    refine ⟨⟨hlegal, fun s' hs' => ?_⟩, hkept.mono fun _ h => h.mono (by omega)⟩
    rw [hsingle, List.mem_singleton] at hs'
    rw [hs']
  · refine ⟨⟨hlegal, fun s' hs' => ?_⟩, hafter.mono fun _ h => h.levelled⟩
    exact (Board.minimax_place_le hs').trans_eq (hbest trivial).symm

end Engine
end Reversi
