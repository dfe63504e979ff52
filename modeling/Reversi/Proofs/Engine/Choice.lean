import Reversi.Engine.Basic
import Reversi.Proofs.Engine.Nesting

/-!
# Reversi.Proofs.Engine.Choice

One choice of the engine, and its searches of rising depth.

* `Engine.choose_eq_ok`: the two ways to a choice, with and without a search.
* `Engine.choose_ok`: there is a choice whenever the engine can move, and it is legal.
* `Engine.choose_searched`: the searches of a choice, the last one apart.
* `Engine.choose_sound`: a choice by searches under regimes.
-/

namespace Reversi

/-- Words for boards with few free squares: the word of a disc is the number of its square, raised
by 64 for White. -/
def Zobrist.numbered : Zobrist :=
  ⟨Vector.ofFn fun i => (.ofNat i.val, .ofNat (64 + i.val)), 128⟩

namespace Engine

theorem settle_mem {proposal : Option Position} {first : Square} {moves : List Square}
    (h : first ∈ moves) : settle proposal first moves ∈ moves := by
  unfold settle
  split
  · exact h
  · split
    · assumption
    · exact h

theorem settle_position {first s : Square} {moves : List Square} (h : s ∈ moves) :
    settle (some s.position) first moves = s := by
  simp [settle, h]

theorem choose_eq_ok {e : Engine} {b : Board} {c : Choice} (h : e.choose b none = .ok c) :
    (b.legalMoves e.side = [c.square] ∧ c.engine = e) ∨
      ∃ first moves proposal table, b.legalMoves e.side = moves ∧ first ∈ moves ∧
        deepen e.search b e.depths none e.startTable = .ok (proposal, table) ∧
        c.square = settle proposal first moves ∧ c.engine = { e with table := table } := by
  simp only [choose, Option.getD_none, ne_eq, not_true_eq_false, if_false] at h
  split at h
  · cases h
  · rename_i s hmoves
    cases h
    exact .inl ⟨hmoves, rfl⟩
  · rename_i first rest _ hmoves
    split at h
    · cases h
    · rename_i proposal table hdeepen
      cases h
      exact .inr ⟨first, first :: rest, proposal, table, hmoves, List.mem_cons_self, hdeepen,
        rfl, rfl⟩

theorem choose_legal {e : Engine} {b : Board} {c : Choice} (h : e.choose b none = .ok c) :
    c.square ∈ b.legalMoves e.side := by
  rcases choose_eq_ok h with ⟨hmoves, -⟩ | ⟨first, moves, proposal, table, rfl, hfirst, -, hs, -⟩
  · rw [hmoves]
    exact List.mem_cons_self
  · rw [hs]
    exact settle_mem hfirst

theorem choose_engine {e : Engine} {b : Board} {c : Choice} (h : e.choose b none = .ok c) :
    ∃ table, c.engine = { e with table := table } := by
  rcases choose_eq_ok h with ⟨-, he⟩ | ⟨_, _, _, table, _, _, _, _, he⟩
  · exact ⟨e.table, he⟩
  · exact ⟨table, he⟩

/-! ## Searches of rising depth -/

theorem deepen_ok {p : Search} (hp : p.Orderly) (b : Board) (depths : List Nat)
    (proposal : Option Position) (table : Table) :
    ∃ x, deepen p b depths proposal table = .ok x := by
  induction depths generalizing proposal table with
  | nil => exact ⟨_, rfl⟩
  | cons d ds ih =>
    obtain ⟨r, hr⟩ := Search.run_ok hp b p.player d .full table
    simp only [deepen, hr]
    exact ih _ _

theorem choose_ok {e : Engine} {b : Board} (h : b.hasLegalMove e.side = true) :
    ∃ c, e.choose b none = .ok c := by
  simp only [choose, Option.getD_none, ne_eq, not_true_eq_false, if_false]
  split
  · rename_i hmoves
    simp [Board.legalMoves_eq_nil_iff.1 hmoves] at h
  · exact ⟨_, rfl⟩
  · obtain ⟨⟨proposal, table⟩, hd⟩ := deepen_ok e.search_orderly b e.depths none e.startTable
    rw [hd]
    exact ⟨_, rfl⟩

theorem deepen_keeps {p : Search} {b : Board} {depths : List Nat} {Keeps : Table → Prop}
    (hrun : ∀ d ∈ depths, ∀ table r, p.run b p.player d .full table = .ok r → Keeps table →
      Keeps r.table)
    {proposal : Option Position} {table : Table} {x : Option Position × Table}
    (h : deepen p b depths proposal table = .ok x) (hkeeps : Keeps table) : Keeps x.2 := by
  induction depths generalizing proposal table with
  | nil =>
    cases h
    exact hkeeps
  | cons d ds ih =>
    rw [deepen] at h
    split at h
    · cases h
    · rename_i r hr
      exact ih (fun d' hd' => hrun d' (List.mem_cons_of_mem _ hd')) h
        (hrun d List.mem_cons_self table r hr hkeeps)

/-- The last search is a search with the table of all the others; what it proposes counts. -/
theorem deepen_last {p : Search} {b : Board} {depths : List Nat} {d : Nat}
    {proposal : Option Position} {table : Table} {x : Option Position × Table}
    (h : deepen p b (depths ++ [d]) proposal table = .ok x) :
    ∃ y r, deepen p b depths proposal table = .ok y ∧
      p.run b p.player d .full y.2 = .ok r ∧ x = (r.best <|> y.1, r.table) := by
  induction depths generalizing proposal table with
  | nil =>
    simp only [List.nil_append, deepen] at h
    split at h
    · cases h
    · rename_i r hr
      cases h
      exact ⟨_, r, rfl, hr, rfl⟩
  | cons d' ds ih =>
    simp only [List.cons_append, deepen] at h ⊢
    split at h
    · cases h
    · rename_i r hr
      exact ih h

theorem depths_eq {e : Engine} {d : Nat} (hd : e.depth = d + 1) :
    e.depths = List.range' 1 d ++ [d + 1] := by
  have hmax : (max 1 e.depth).toNat = d + 1 := by omega
  rw [depths, hmax, List.range'_concat, Nat.mul_comm, Nat.mul_one, Nat.add_comm]

/-- A choice is the only placement there is, or what a search of full depth proposes whose table was
kept by the searches before it. -/
theorem choose_searched {e : Engine} {b : Board} {c : Choice} {d : Nat} {Keeps : Table → Prop}
    (h : e.choose b none = .ok c) (hd : e.depth = d + 1) (hempty : Keeps ∅)
    (hkeeps : Keeps e.table)
    (hrun : ∀ d' ≤ d, ∀ table r, e.search.run b e.side d' .full table = .ok r → Keeps table →
      Keeps r.table) :
    (b.legalMoves e.side = [c.square] ∧ c.engine = e) ∨
      ∃ table r, Keeps table ∧ e.search.run b e.side (d + 1 : Nat) .full table = .ok r ∧
        c.engine = { e with table := r.table } ∧
        ∀ s ∈ b.legalMoves e.side, r.best = some s.position → c.square = s := by
  rcases choose_eq_ok h with hsingle | ⟨first, moves, proposal, table, rfl, -, hdeepen, hs, he⟩
  · exact .inl hsingle
  · rw [depths_eq hd] at hdeepen
    obtain ⟨⟨proposal', table'⟩, r, hrising, hlast, hx⟩ := deepen_last hdeepen
    cases hx
    have hstart : Keeps e.startTable := by
      unfold startTable
      split
      · exact hempty
      · exact hkeeps
    have hkept := deepen_keeps (fun d' hd' => hrun d' (by simp at hd'; omega)) hrising hstart
    refine .inr ⟨table', r, hkept, hlast, he, fun s hlegal hbest => ?_⟩
    rw [hs, hbest]
    exact settle_position hlegal

/-- A choice whose searches are done under regimes, with a table that has no deep entry about the
board itself. The placement is then as good as the last search can tell. -/
theorem choose_sound {e : Engine} {b : Board} {c : Choice} {d : Nat} {W : Board → Side → Prop}
    {Allowed : Board → Side → Entry → Prop} (h : e.choose b none = .ok c) (hd : e.depth = d + 1)
    (hkept : e.search.Remembers W Allowed e.table) (hroot : W b e.side)
    (hshallow : ∀ {entry}, Allowed b e.side entry → entry.depth < (d + 1 : Nat))
    (hrising : ∀ d' ≤ d, ∃ R : Search.Regime e.search b e.side d',
      R.Keeps = e.search.Remembers W Allowed)
    (R : Search.Regime e.search b e.side (d + 1))
    (hlast : ∀ {table}, e.search.Remembers W Allowed table → R.Keeps table) :
    (b.legalMoves e.side = [c.square] ∧ c.engine = e) ∨
      R.Keeps c.engine.table ∧ (R.Settled b e.side (d + 1) →
        (b.place e.side c.square).minimax e.side d e.side.opponent =
          b.minimax e.side (d + 1) e.side) := by
  have hkeeps : ∀ d' ≤ d, ∀ table r, e.search.run b e.side d' .full table = .ok r →
      e.search.Remembers W Allowed table → e.search.Remembers W Allowed r.table := by
    intro d' hd' table r hr hbefore
    obtain ⟨R', hR'⟩ := hrising d' hd'
    rw [← hR'] at hbefore ⊢
    exact (R'.within_sound _ hr R'.visits_root rfl hbefore).1
  rcases choose_searched h hd (e.search.remembers_empty W Allowed) hkept hkeeps with
    hsingle | ⟨table, r, hbefore, hr, he, hsettle⟩
  · exact .inl hsingle
  · obtain ⟨hafter, hvalue⟩ := R.within_sound _ hr R.visits_root rfl (hlast hbefore)
    refine .inr ⟨he ▸ hafter, fun hsettled => ?_⟩
    obtain ⟨v, hv⟩ := (hvalue hsettled).eq_fin
    have hnew : ∀ entry, ¬ e.search.Usable table b e.side ((d + 1 : Nat) : Int) entry := by
      intro entry hused
      have := hshallow (hbefore b e.side entry hroot hused.1)
      have := hused.2
      omega
    obtain ⟨s, hs, hbest, hs'⟩ := R.within_best hr R.visits_root hsettled rfl (hlast hbefore) hnew
      (Board.hasLegalMove_of_mem (choose_legal h)) (by rw [hv]; rfl) (by rw [hv]; rfl)
    rw [hsettle s hs hbest]
    exact hs'

end Engine
end Reversi
