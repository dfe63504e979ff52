import Reversi.Proofs.Engine.Bounds
import Reversi.Proofs.Engine.Minimax

/-!
# Reversi.Proofs.Engine.Scan

The loop over placements that narrows its window and stops when the window closes.

* `Search.Progress`: the loop invariant. No placement tried so far is better than the value found,
  and a value beyond the near end of the window is reached by the placement found.
* `Search.scan_sound`: when every placement is searched truthfully, the loop returns what the best
  placement of all is worth, as far as the window asks for it.
* `Search.scan_keeps`: a property of the table that every single search keeps.
* `Search.scan_ends`: the loop has a result, and one that does not depend on how many nested calls
  are allowed, when every placement has one.
-/

namespace Reversi
namespace Search

/-- The end of the window that the side to move pushes. -/
def near (maximize : Bool) (w : Window) : Value := if maximize then w.alpha else w.beta

def improved (maximize : Bool) (s : Square) (found r : Finding) : Finding :=
  if better maximize r.value found.value then ⟨r.value, some s.position, r.table⟩
  else { found with table := r.table }

theorem scan_cons {maximize : Bool} {child : Square → Window → Table → Except SearchFault Finding}
    {s : Square} {rest : List Square} {found r : Finding} {w : Window}
    (h : child s w found.table = .ok r) :
    scan maximize child (s :: rest) found w =
      if (tighten maximize w (improved maximize s found r).value).isClosed then
        .ok (improved maximize s found r)
      else scan maximize child rest (improved maximize s found r)
        (tighten maximize w (improved maximize s found r).value) := by
  simp only [scan, h]
  rfl

theorem improved_table (maximize : Bool) (s : Square) (found r : Finding) :
    (improved maximize s found r).table = r.table := by
  unfold improved
  split <;> rfl

theorem under_improved (maximize : Bool) (s : Square) (found r : Finding) :
    Under maximize found.value (improved maximize s found r).value ∧
      Under maximize r.value (improved maximize s found r).value := by
  unfold improved better Under
  cases maximize <;> simp only [if_true, Bool.false_eq_true, if_false, decide_eq_true_eq] <;>
    split <;> constructor <;> order

theorem tighten_tighten {maximize : Bool} {w : Window} {x y : Value} (h : Under maximize x y) :
    tighten maximize (tighten maximize w x) y = tighten maximize w y := by
  cases maximize <;> simp only [tighten, Under, if_true, Bool.false_eq_true, if_false] at h ⊢
  · rw [min_assoc, min_eq_right h]
  · rw [max_assoc, max_eq_right h]

theorem tighten_worst (maximize : Bool) (w : Window) :
    tighten maximize w (worst maximize) = w := by
  cases maximize
  · exact congrArg (Window.mk w.alpha) (min_eq_left (Value.le_posInf _))
  · exact congrArg (Window.mk · w.beta) (max_eq_left (Value.negInf_le _))

/-- The loop invariant: `tried` are the placements that were searched, `w` is the window at the
start of the loop. -/
structure Progress (maximize : Bool) (f : Square → Int) (w : Window) (tried : List Square)
    (found : Finding) : Prop where
  covers : ∀ s ∈ tried, Under maximize (.fin (f s)) found.value
  reached : ¬ Under maximize found.value (near maximize w) →
    ∃ s ∈ tried, found.best = some s.position ∧ found.value = .fin (f s)

variable {maximize : Bool} {f : Square → Int} {w : Window} {tried moves : List Square}
  {found r : Finding} {s : Square}

theorem Progress.start (maximize : Bool) (f : Square → Int) (w : Window) (table : Table) :
    Progress maximize f w [] ⟨worst maximize, none, table⟩ := by
  refine ⟨fun s hs => (List.not_mem_nil hs).elim, fun h => absurd ?_ h⟩
  cases maximize
  · exact Value.le_posInf _
  · exact Value.negInf_le _

theorem Progress.step (hp : Progress maximize f w tried found)
    (hr : (tighten maximize w found.value).Admits r.value (f s))
    (hopen : (tighten maximize w (improved maximize s found r).value).IsOpen) :
    Progress maximize f w (tried ++ [s]) (improved maximize s found r) := by
  obtain ⟨hfound, hnew⟩ := under_improved maximize s found r
  have hs : Under maximize (.fin (f s)) (improved maximize s found r).value := by
    obtain ⟨hu, hl, hx⟩ := hr
    cases maximize <;>
      simp only [Under, tighten, Window.IsOpen, if_true, Bool.false_eq_true, if_false] at *
    · by_cases h : min w.beta found.value ≤ r.value
      · exact le_trans hnew (hl h)
      · have := hx (by order) (by order)
        order
    · by_cases h : r.value ≤ max w.alpha found.value
      · exact le_trans (hu h) hnew
      · have := hx (by order) (by order)
        order
  constructor
  · intro t ht
    rcases List.mem_append.1 ht with ht | ht
    · exact (hp.covers t ht).trans hfound
    · rw [List.mem_singleton.1 ht]
      exact hs
  · intro hbeyond
    by_cases hb : better maximize r.value found.value = true
    · refine ⟨s, List.mem_append_right _ List.mem_cons_self, by simp [improved, hb], ?_⟩
      simp only [improved, hb, if_true] at hbeyond hopen ⊢
      refine hr.exact ?_ ?_ <;> cases maximize <;>
        simp only [Under, near, better, tighten, Window.IsOpen, if_true, Bool.false_eq_true,
          if_false, decide_eq_true_eq] at * <;> order
    · simp only [improved, hb, Bool.false_eq_true, if_false] at hbeyond ⊢
      obtain ⟨t, ht, h⟩ := hp.reached hbeyond
      exact ⟨t, List.mem_append_left _ ht, h⟩

/-- What the loop found is true of the best of all placements, and strictly inside the window the
placement found is a best one. -/
structure Sound (maximize : Bool) (f : Square → Int) (w : Window) (moves : List Square)
    (found : Finding) : Prop where
  admits : ∀ x, Optimal maximize moves f x → w.Admits found.value x
  best : w.alpha < found.value → found.value < w.beta →
    ∃ s ∈ moves, found.best = some s.position ∧ found.value = .fin (f s)

theorem Progress.sound (hp : Progress maximize f w moves found)
    (hopen : (tighten maximize w found.value).IsOpen) : Sound maximize f w moves found := by
  constructor
  · intro x hx
    obtain ⟨s, hs, rfl⟩ := hx.reached
    have hcover := hp.covers s hs
    have hexact : ¬ Under maximize found.value (near maximize w) → found.value = .fin (f s) := by
      intro h
      obtain ⟨t, ht, -, hvalue⟩ := hp.reached h
      have hbound : Under maximize (Value.fin (f t)) (.fin (f s)) := by
        have := hx.bound t ht
        cases maximize <;> simpa [Under] using this
      rw [hvalue] at hcover ⊢
      exact hbound.antisymm hcover
    cases maximize <;>
      simp only [Under, near, tighten, Window.IsOpen, if_true, Bool.false_eq_true, if_false] at *
    · exact ⟨fun h => by order, fun _ => hcover, fun _ h => hexact (by order)⟩
    · exact ⟨fun _ => hcover, fun h => by order, fun h _ => hexact (by order)⟩
  · intro hlow hhigh
    refine hp.reached fun h => ?_
    cases maximize <;> simp only [Under, near, if_true, Bool.false_eq_true, if_false] at h <;> order

/-- The search of `s` closed the window: it alone shows that the value is good enough. -/
theorem sound_of_cutoff (hs : s ∈ moves) (hw : (tighten maximize w found.value).IsOpen)
    (hr : (tighten maximize w found.value).Admits r.value (f s))
    (hclosed : ¬ (tighten maximize w (improved maximize s found r).value).IsOpen) :
    Sound maximize f w moves (improved maximize s found r) := by
  have hb : better maximize r.value found.value = true := by
    by_contra hb
    simp only [improved, hb, if_false] at hclosed
    exact hclosed hw
  simp only [improved, hb, if_true] at hclosed ⊢
  constructor
  · intro x hx
    have hbound := hx.bound s hs
    obtain ⟨hu, hl, -⟩ := hr
    cases maximize <;>
      simp only [Under, tighten, Window.IsOpen, if_true, Bool.false_eq_true, if_false] at *
    · have hle : Value.fin x ≤ Value.fin (f s) := Value.fin_le_fin.2 hbound
      exact ⟨fun _ => le_trans hle (hu (by order)), fun h => by order, fun _ _ => by order⟩
    · have hle : Value.fin (f s) ≤ Value.fin x := Value.fin_le_fin.2 hbound
      exact ⟨fun h => by order, fun _ => le_trans (hl (by order)) hle, fun _ _ => by order⟩
  · intro hlow hhigh
    cases maximize <;>
      simp only [tighten, Window.IsOpen, if_true, Bool.false_eq_true, if_false] at * <;> order

section Loop

variable {child : Square → Window → Table → Except SearchFault Finding} {Keeps : Table → Prop}
  {wanted : Prop}

/-- The loop, by induction on the placements that are left. -/
theorem scan_from (hchild : ∀ s ∈ moves, ∀ w table r, child s w table = .ok r → w.IsOpen →
      Keeps table → Keeps r.table ∧ (wanted → w.Admits r.value (f s))) :
    ∀ rest tried found, moves = tried ++ rest → Keeps found.table →
      (wanted → Progress maximize f w tried found) → (tighten maximize w found.value).IsOpen →
      scan maximize child rest found (tighten maximize w found.value) = .ok r →
      Keeps r.table ∧ (wanted → Sound maximize f w moves r) := by
  intro rest
  induction rest with
  | nil =>
    intro tried found hmoves hkeeps hp hopen h
    cases h
    rw [List.append_nil] at hmoves
    subst hmoves
    exact ⟨hkeeps, fun hwanted => (hp hwanted).sound hopen⟩
  | cons s rest ih =>
    intro tried found hmoves hkeeps hp hopen h
    have hs : s ∈ moves := by rw [hmoves]; exact List.mem_append_right _ List.mem_cons_self
    cases hc : child s (tighten maximize w found.value) found.table with
    | error e => simp [scan, hc] at h
    | ok r' =>
      obtain ⟨hkeeps', hr⟩ := hchild s hs _ _ _ hc hopen hkeeps
      rw [scan_cons hc, tighten_tighten (under_improved maximize s found r').1] at h
      rw [← improved_table maximize s found r'] at hkeeps'
      split at h
      · rename_i hclosed
        cases h
        refine ⟨hkeeps', fun hwanted => sound_of_cutoff hs hopen (hr hwanted) ?_⟩
        rw [← Window.isClosed_eq_false, hclosed]
        exact Bool.noConfusion
      · rename_i hstill
        have hopen' := Window.isClosed_eq_false.1 (Bool.eq_false_iff.2 hstill)
        exact ih (tried ++ [s]) _ (by rw [hmoves, List.append_assoc]; rfl) hkeeps'
          (fun hwanted => (hp hwanted).step (hr hwanted) hopen') hopen' h

theorem scan_sound {table : Table} (hw : w.IsOpen) (hkeeps : Keeps table)
    (hchild : ∀ s ∈ moves, ∀ w table r, child s w table = .ok r → w.IsOpen →
      Keeps table → Keeps r.table ∧ (wanted → w.Admits r.value (f s)))
    (h : scan maximize child moves ⟨worst maximize, none, table⟩ w = .ok r) :
    Keeps r.table ∧ (wanted → Sound maximize f w moves r) := by
  have hstart := tighten_worst maximize w
  refine scan_from hchild moves [] ⟨worst maximize, none, table⟩ rfl hkeeps
    (fun _ => .start maximize f w table) ?_ ?_
  · rwa [hstart]
  · rwa [hstart]

theorem scan_keeps (hchild : ∀ s ∈ moves, ∀ w table r, child s w table = .ok r → Keeps table →
      Keeps r.table) :
    ∀ found w, scan maximize child moves found w = .ok r → Keeps found.table → Keeps r.table := by
  induction moves with
  | nil =>
    intro found w h hkeeps
    cases h
    exact hkeeps
  | cons s rest ih =>
    intro found w h hkeeps
    cases hc : child s w found.table with
    | error e => simp [scan, hc] at h
    | ok r' =>
      have hkeeps' := hchild s List.mem_cons_self w found.table r' hc hkeeps
      rw [← improved_table maximize s found r'] at hkeeps'
      rw [scan_cons hc] at h
      split at h
      · cases h
        exact hkeeps'
      · exact ih (fun t ht => hchild t (List.mem_cons_of_mem _ ht)) _ _ h hkeeps'

end Loop

/-- With a search for every allowance of nested calls: if from some allowance on every placement has
a result that stays the same, so has the loop. -/
theorem scan_ends {child : Nat → Square → Window → Table → Except SearchFault Finding} {fuel : Nat}
    (hchild : ∀ s ∈ moves, ∀ w table, ∃ r, ∀ m, fuel ≤ m → child m s w table = .ok r) :
    ∀ found w, ∃ r, ∀ m, fuel ≤ m → scan maximize (child m) moves found w = .ok r := by
  induction moves with
  | nil => exact fun found w => ⟨found, fun _ _ => rfl⟩
  | cons s rest ih =>
    intro found w
    obtain ⟨r', hr'⟩ := hchild s List.mem_cons_self w found.table
    by_cases hclosed : (tighten maximize w (improved maximize s found r').value).isClosed = true
    · refine ⟨improved maximize s found r', fun m hm => ?_⟩
      rw [scan_cons (hr' m hm), if_pos hclosed]
    · obtain ⟨r, hr⟩ := ih (fun t ht => hchild t (List.mem_cons_of_mem _ ht))
        (improved maximize s found r') (tighten maximize w (improved maximize s found r').value)
      refine ⟨r, fun m hm => ?_⟩
      rw [scan_cons (hr' m hm), if_neg hclosed]
      exact hr m hm

end Search
end Reversi
