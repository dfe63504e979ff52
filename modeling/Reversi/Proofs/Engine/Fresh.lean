import Reversi.Proofs.Engine.Choice
import Reversi.Proofs.Engine.Notes

/-!
# Reversi.Proofs.Engine.Fresh

A search that starts with an empty table against the plain value.

An entry is used by every later search of its position that asks for no more depth than it has. So
a position that is reached after different numbers of plies may get the value of another depth, and
the search then returns something else than the plain value.

* `Board.DepthsAgree`: no position has different values at the depths at which it is reached.
* `Search.run_empty_sound`: the search returns the plain value as far as its window asks for it, and
  inside the window a best placement. Up to depth 5 no position is reached at two depths; beyond it
  the depths have to agree.
* `Search.run_detour_unsound`: a board where they do not.
-/

namespace Reversi

/-- A position that a search of depth `d` may store has one value at all the depths that may be left
there. -/
def Board.DepthsAgree (b : Board) (player t : Side) (d : Nat) : Prop :=
  ∀ k k' c u, k < d → k' < d → Board.Leads b t k c u → Board.Leads b t k' c u →
    c.hasLegalMove u = true → c.minimax player (d - k) u = c.minimax player (d - k') u

theorem Board.depthsAgree_of_le_five (b : Board) (player t : Side) {d : Nat} (hd : d ≤ 5) :
    b.DepthsAgree player t d := by
  intro k k' c u hk hk' h h' _
  rw [h.plies_eq h' (by omega) (by omega)]

/-! ## A board with a pass -/

/-- White at first has a placement that Black can answer, and one after which Black passes. A
position that is reached after three plies with the first one is reached after five with the other,
as each side passes once. -/
def Board.detour : Board :=
  let e := Cell.empty
  let x := Cell.black
  let o := Cell.white
  ⟨#v[
    e, x, x, x, o, x, x, x,
    e, x, e, x, x, x, x, x,
    e, x, x, x, x, x, x, x,
    x, x, x, o, x, x, x, x,
    x, x, x, x, x, x, x, x,
    x, x, x, x, x, e, x, x,
    x, x, x, o, x, x, x, x,
    x, x, x, x, x, x, x, x]⟩

namespace Search

def detourPositions : List (Board × Side) :=
  (List.range 7).flatMap (Board.detour.plies .white)

/-- A search that tries the placements row by row, with the place of a position in a list as its
key. -/
def detourSearch : Search where
  player := .white
  key b t := .ofNat (detourPositions.idxOf (b, t))
  order _ _ moves := moves

theorem detour_orderly : detourSearch.Orderly := fun _ _ _ => .refl _

theorem detour_keysApart :
    detourSearch.KeysApart (fun c u => ∃ k ≤ 6, Board.detour.Leads .white k c u) := by
  have hfew : detourPositions.length < 2 ^ 64 := by
    have : detourPositions.length = 12 := by decide +kernel
    omega
  have hmem : ∀ {c u}, (∃ k ≤ 6, Board.detour.Leads .white k c u) → (c, u) ∈ detourPositions :=
    fun ⟨k, hk, h⟩ => List.mem_flatMap.2 ⟨k, List.mem_range.2 (by omega), h.mem_plies⟩
  intro b t c u hb hc hkey
  have hb' := List.idxOf_lt_length_of_mem (hmem hb)
  have hc' := List.idxOf_lt_length_of_mem (hmem hc)
  have hplace := congrArg UInt64.toNat hkey
  simp only [detourSearch, UInt64.toNat_ofNat'] at hplace
  rw [Nat.mod_eq_of_lt (by omega), Nat.mod_eq_of_lt (by omega)] at hplace
  have hsame : (b, t) = (c, u) := (List.idxOf_inj (hmem hb)).1 hplace
  exact Prod.mk.inj hsame

end Search

/-! ## The value found -/

namespace Search

variable {p : Search} {b : Board} {t : Side} {d : Nat}

/-- The entries that a search with an empty table makes: true at every depth at which they may be
used. -/
def freshRegime (hp : p.Orderly) (hkeys : p.KeysApart (b.Expanded t d))
    (hagree : b.DepthsAgree p.player t d) : Regime p b t d where
  Watched := b.Expanded t d
  Allowed c u e := ∀ k < d, Board.Leads b t k c u → ((d - k : Nat) : Int) ≤ e.depth →
    e.Truthful (c.minimax p.player (d - k) u)
  Settled _ _ _ := True
  orderly := hp
  keysApart := hkeys
  watched := id
  settled_place := fun _ _ => trivial
  settled_pass := fun _ _ _ => trivial
  truthful := by
    intro k c u n e h hk _ _ hallowed hdeep
    have hn : d - k = n + 1 := by omega
    have := hallowed k (by omega) h
    rw [hn] at this
    exact this hdeep
  allowed := by
    intro k c u n e h hk hu _ htrue k' hk' h' _
    rw [hagree k' k c u hk' (by omega) h' h hu, show d - k = n + 1 by omega]
    exact htrue trivial

/-- A search with an empty table, whatever the order of placements, returns a truthful value, and
strictly inside its window a placement that is worth it. -/
theorem run_empty_sound (hp : p.Orderly) {w : Window} (hw : w.alpha < w.beta)
    (hkeys : p.KeysApart (b.Expanded t d)) (hagree : 5 < d → b.DepthsAgree p.player t d) :
    ∃ r, p.run b t d w ∅ = .ok r ∧ w.Admits r.value (b.minimax p.player d t) ∧
      (w.alpha < r.value → r.value < w.beta → 1 ≤ d → b.hasLegalMove t = true →
        ∃ s ∈ b.legalMoves t, r.best = some s.position ∧
          (b.place t s).minimax p.player (d - 1) t.opponent = b.minimax p.player d t) := by
  have hagree' : b.DepthsAgree p.player t d := by
    by_cases hd : 5 < d
    · exact hagree hd
    · exact b.depthsAgree_of_le_five p.player t (by omega)
  let R := freshRegime hp hkeys hagree'
  obtain ⟨r, hr⟩ := run_ok hp b t d w ∅
  obtain ⟨-, hadmits⟩ := R.within_sound _ hr R.visits_root hw (p.remembers_empty _ _)
  refine ⟨r, hr, hadmits trivial, fun hlow hhigh hd ht => ?_⟩
  obtain ⟨n, rfl⟩ : ∃ n, d = n + 1 := ⟨d - 1, by omega⟩
  have hnew : ∀ e, ¬ p.Usable ∅ b t ((n + 1 : Nat) : Int) e := by
    intro e he
    simp [Usable] at he
  exact R.within_best hr R.visits_root trivial hw (p.remembers_empty _ _) hnew ht hlow hhigh

theorem run_empty_sound_detour :
    detourSearch.KeysApart (Board.detour.Expanded .white 5) ∧
      ∃ r, detourSearch.run .detour .white (5 : Nat) .full ∅ = .ok r ∧
        r.value = .fin (Board.detour.minimax .white 5 .white) ∧
        ∃ s ∈ Board.detour.legalMoves .white, r.best = some s.position ∧
          (Board.detour.place .white s).minimax .white 4 .black =
            Board.detour.minimax .white 5 .white := by
  have hkeys : detourSearch.KeysApart (Board.detour.Expanded .white 5) :=
    fun b t c u ⟨_, k, hk, h⟩ ⟨_, k', hk', h'⟩ =>
      detour_keysApart b t c u ⟨k, by omega, h⟩ ⟨k', by omega, h'⟩
  have hmove : Board.detour.hasLegalMove .white = true := by decide +kernel
  obtain ⟨r, hr, hvalue, hbest⟩ := run_empty_sound detour_orderly
    (show Window.full.alpha < Window.full.beta from rfl) hkeys (fun hdeep => by omega)
  obtain ⟨v, hv⟩ := hvalue.eq_fin
  have hlow : Window.full.alpha < r.value := by
    rw [hv]
    rfl
  have hhigh : r.value < Window.full.beta := by
    rw [hv]
    rfl
  exact ⟨hkeys, r, hr, hvalue.exact hlow hhigh, hbest hlow hhigh (by decide) hmove⟩

/-! ## One position at two depths -/

theorem detour_retrace :
    (detourSearch.retrace 11 .detour .white (6 : Nat) .full []).toOption.map (·.value) =
      some (.fin (-10040)) := by
  decide +kernel

/-- The search returns a lost game although the plain value is another one: it uses the entry of the
position that it reached after three plies when it comes to it after five. -/
theorem run_detour_unsound :
    detourSearch.Orderly ∧ Window.full.alpha < Window.full.beta ∧
      detourSearch.KeysApart (fun c u => ∃ k ≤ 6, Board.detour.Leads .white k c u) ∧
      ∃ r, detourSearch.run .detour .white (6 : Nat) .full ∅ = .ok r ∧ r.value = .fin (-10040) ∧
        Board.detour.minimax detourSearch.player 6 .white = 90 ∧
        ¬ Window.full.Admits r.value (Board.detour.minimax detourSearch.player 6 .white) := by
  have hstored : detourSearch.KeysApart (Board.detour.Expanded .white 6) :=
    fun b t c u ⟨_, k, hk, h⟩ ⟨_, k', hk', h'⟩ =>
      detour_keysApart b t c u ⟨k, by omega, h⟩ ⟨k', by omega, h'⟩
  have hfuel : 2 * Board.detour.empties + 1 = 11 := by decide +kernel
  have hplain : Board.detour.minimax detourSearch.player 6 .white = 90 := by decide +kernel
  have hmatches := within_matches (w := .full) detour_orderly hstored 11 .here (Nat.zero_add 6)
    (agrees_empty _ _)
  have hretrace := detour_retrace
  generalize detourSearch.retrace 11 .detour .white (6 : Nat) .full [] = found at hmatches hretrace
  generalize hrun : detourSearch.within 11 .detour .white (6 : Nat) .full ∅ = result at hmatches
  cases hmatches with
  | error f => simp [Except.toOption] at hretrace
  | @ok value best table notes _ =>
    obtain rfl : value = .fin (-10040) := by simpa [Except.toOption] using hretrace
    refine ⟨detour_orderly, rfl, detour_keysApart, ⟨.fin (-10040), best, table⟩, ?_, rfl, hplain,
      ?_⟩
    · rw [run, hfuel]
      exact hrun
    · rw [hplain]
      intro h
      have := h.exact rfl rfl
      simp at this

end Search
end Reversi
