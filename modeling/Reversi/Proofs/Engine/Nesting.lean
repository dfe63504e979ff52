import Reversi.Engine.Basic
import Reversi.Proofs.Engine.Soundness

/-!
# Reversi.Proofs.Engine.Nesting

How deep the calls of the search are nested.

* `Board.Nests`: so many searches may be nested below a search, as each is one ply further on and
  none is made below depth 0.
* `Board.Nests.le_empties`, `Board.Nests.le_depth`: two bounds of their number. The first also holds
  at negative depths, which never become 0.
* `Search.within_ends`: the search gives up only if it allows for fewer searches than may be nested,
  and its result does not depend on how many more it allows for.
* `Search.run_ok`: the search that allows for the free squares has a result; `Search.within_eq_run`:
  so has every search that allows for what may be nested, and it is the same one.
* `Engine.search_orderly`: an engine tries all legal placements, whichever order it meets them in.
* `Search.run_ends`: how deep the engine's calls are nested, for every board, side, depth, window
  and table.
-/

namespace Reversi

namespace Board

/-- Below the search of `b` to a depth, `k` searches may be nested in each other: there is a line of
`k` plies, and the depth is not 0 before its end. -/
def Nests (b : Board) (t : Side) (depth : Int) (k : Nat) : Prop :=
  ∃ c u, b.Leads t k c u ∧ ∀ j < k, depth ≠ (j : Int)

variable {b : Board} {t : Side} {depth : Int} {k : Nat}

theorem nests_zero (b : Board) (t : Side) (depth : Int) : b.Nests t depth 0 :=
  ⟨b, t, .here, fun _ hj => absurd hj (Nat.not_lt_zero _)⟩

/-- The depth is used up one ply later than seen from the next ply. -/
theorem left_succ (hdepth : depth ≠ 0) (hleft : ∀ j < k, depth - 1 ≠ (j : Int)) :
    ∀ j < k + 1, depth ≠ (j : Int) := by
  intro j hj
  cases j with
  | zero => exact hdepth
  | succ j =>
    have := hleft j (by omega)
    omega

theorem Nests.of_place {s : Square} (h : (b.place t s).Nests t.opponent (depth - 1) k)
    (hs : s ∈ b.legalMoves t) (hdepth : depth ≠ 0) : b.Nests t depth (k + 1) := by
  obtain ⟨c, u, hlead, hleft⟩ := h
  exact ⟨c, u, hlead.of_place hs, left_succ hdepth hleft⟩

theorem Nests.of_pass (h : b.Nests t.opponent (depth - 1) k) (ht : b.hasLegalMove t = false)
    (ho : b.hasLegalMove t.opponent = true) (hdepth : depth ≠ 0) : b.Nests t depth (k + 1) := by
  obtain ⟨c, u, hlead, hleft⟩ := h
  exact ⟨c, u, hlead.of_pass ht ho, left_succ hdepth hleft⟩

theorem Nests.le_empties (h : b.Nests t depth k) : k ≤ 2 * b.empties := by
  obtain ⟨c, u, hlead, -⟩ := h
  exact hlead.length_le

theorem not_nests (b : Board) (t : Side) (depth : Int) :
    ¬ b.Nests t depth (2 * b.empties + 1) := by
  intro h
  have := h.le_empties
  omega

theorem Nests.le_depth (h : b.Nests t depth k) (hdepth : 0 ≤ depth) : (k : Int) ≤ depth := by
  obtain ⟨c, u, -, hleft⟩ := h
  by_contra hlong
  exact hleft depth.toNat (by omega) (by omega)

end Board

theorem Engine.search_orderly (e : Engine) : e.search.Orderly :=
  fun b t moves => (b.ordered_perm t _).trans (e.setup.walk_perm b t moves)

namespace Search

variable {p : Search} {b : Board} {t : Side} {depth : Int} {w : Window} {table : Table}
  {fuel : Nat}

/-- By induction on the allowance: below a search, one search less may be nested than below the
search that calls it. -/
theorem within_ends (hp : p.Orderly) (hnests : ¬ b.Nests t depth fuel) :
    ∃ r, ∀ m, fuel ≤ m → p.within m b t depth w table = .ok r := by
  induction fuel generalizing b t depth w table with
  | zero => exact absurd (b.nests_zero t depth) hnests
  | succ fuel ih =>
    -- an allowance of at least `fuel + 1` is one more than an allowance of at least `fuel`
    suffices h : ∃ r, ∀ m, fuel ≤ m → p.within (m + 1) b t depth w table = .ok r by
      obtain ⟨r, hr⟩ := h
      refine ⟨r, fun m hm => ?_⟩
      obtain ⟨m, rfl⟩ : ∃ m', m = m' + 1 := ⟨m - 1, by omega⟩
      exact hr m (by omega)
    cases ht : b.hasLegalMove t with
    | false =>
      cases ho : b.hasLegalMove t.opponent with
      | false => exact ⟨_, fun m _ => within_ended ht ho⟩
      | true =>
        by_cases hd : depth = 0
        · subst hd
          exact ⟨_, fun m _ => within_leaf (.inr ho)⟩
        · have hpassed : ∃ r, ∀ m, fuel ≤ m →
              p.within m b t.opponent (depth - 1) w table = .ok r :=
            ih fun h => hnests (h.of_pass ht ho hd)
          obtain ⟨r, hr⟩ := hpassed
          refine ⟨{ r with best := none }, fun m hm => ?_⟩
          rw [within_pass ht ho hd, hr m hm]
          rfl
    | true =>
      by_cases hd : depth = 0
      · subst hd
        exact ⟨_, fun m _ => within_leaf (.inl ht)⟩
      · simp only [within_move ht hd]
        cases consult table[p.key b t]? depth w with
        | answer value best => exact ⟨_, fun _ _ => rfl⟩
        | «continue» narrowed =>
          have hchild : ∀ s ∈ p.tries b t table, ∀ w table, ∃ r, ∀ m, fuel ≤ m →
              p.child m b t depth s w table = .ok r := by
            intro s hs w table
            have hlegal : s ∈ b.legalMoves t := (tries_perm hp b t _).mem_iff.1 hs
            simp only [child_of_legal hlegal]
            exact ih fun h => hnests (h.of_place hlegal hd)
          have hscan : ∃ r, ∀ m, fuel ≤ m → scan (t == p.player) (p.child m b t depth)
              (p.tries b t table) ⟨worst (t == p.player), none, table⟩ narrowed = .ok r :=
            scan_ends hchild _ _
          obtain ⟨r, hr⟩ := hscan
          refine ⟨⟨r.value, r.best,
            r.table.insert (p.key b t) ⟨depth, r.value, w.classify r.value, r.best⟩⟩, fun m hm => ?_⟩
          simp only [hr m hm]
          rfl

theorem run_ok (hp : p.Orderly) (b : Board) (t : Side) (depth : Int) (w : Window)
    (table : Table) : ∃ r, p.run b t depth w table = .ok r := by
  obtain ⟨r, hr⟩ := within_ends hp (b.not_nests t depth)
  exact ⟨r, hr _ (Nat.le_refl _)⟩

/-- Both allowances are enough, so both give what a greater one gives. -/
theorem within_eq_run (hp : p.Orderly) (hnests : ¬ b.Nests t depth fuel) :
    p.within fuel b t depth w table = p.run b t depth w table := by
  obtain ⟨r, hr⟩ := within_ends hp hnests
  obtain ⟨r', hr'⟩ := within_ends hp (b.not_nests t depth)
  calc p.within fuel b t depth w table
      = p.within (max fuel (2 * b.empties + 1)) b t depth w table := by
        rw [hr fuel (Nat.le_refl _), hr _ (Nat.le_max_left _ _)]
    _ = p.run b t depth w table := by
        rw [run, hr' _ (Nat.le_max_right _ _), hr' _ (Nat.le_refl _)]

/-- The engine's searches are nested at most twice as deep as there are free squares, at negative
depths, too, and at most as deep as the depth, where it is not negative. A search gives up only if
more are nested than it allows for; if it allows for so many, it has a result, and the same one
whatever more it allows for. -/
theorem run_ends (e : Engine) (b : Board) (t : Side) (depth : Int) (w : Window) (table : Table) :
    (∀ fuel f, e.search.within fuel b t depth w table = .error f → b.Nests t depth fuel) ∧
    (∀ k, b.Nests t depth k → k ≤ 2 * b.empties ∧ (0 ≤ depth → (k : Int) ≤ depth)) ∧
    ∃ r, e.search.run b t depth w table = .ok r ∧
      ∀ fuel : Nat, 2 * b.empties + 1 ≤ fuel ∨ (0 ≤ depth ∧ depth + 1 ≤ fuel) →
        e.search.within fuel b t depth w table = .ok r := by
  have horder : e.search.Orderly := e.search_orderly
  refine ⟨fun fuel f hf => ?_, fun k h => ⟨h.le_empties, h.le_depth⟩, ?_⟩
  · by_contra hnests
    obtain ⟨r, hr⟩ := within_ends horder hnests
    rw [hr fuel (Nat.le_refl _)] at hf
    cases hf
  · obtain ⟨r, hrun⟩ := run_ok horder b t depth w table
    refine ⟨r, hrun, fun fuel henough => ?_⟩
    have hnests : ¬ b.Nests t depth fuel := by
      intro h
      rcases henough with henough | ⟨hdepth, henough⟩
      · have := h.le_empties
        omega
      · have := h.le_depth hdepth
        omega
    rw [within_eq_run horder hnests, hrun]

end Search
end Reversi
