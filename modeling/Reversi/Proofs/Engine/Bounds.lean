import Mathlib.Order.Lattice
import Mathlib.Tactic.Order
import Reversi.Engine.Search

/-!
# Reversi.Proofs.Engine.Bounds

What a search value and a table entry say about a true value.

* `Value` is a linear order, with the `max` and `min` of the search.
* `Window.Admits w r v`: the value `r` that a search found in the window `w` tells the truth about
  `v`. Outside the window `r` is a bound of `v`, inside it is `v`.
* `Entry.Truthful e v`: the entry is a bound of `v` of the kind that it says.
* `Window.Admits.of_narrow`: a window that a truthful entry narrowed does no harm.
* `Window.Admits.truthful_classify`: what a search stores is truthful again.
-/

namespace Reversi

namespace Value

theorem le_iff_lt_or_eq (a b : Value) : a ≤ b ↔ a < b ∨ a = b := by
  change b.below a = false ↔ a.below b = true ∨ a = b
  cases a <;> cases b <;> simp [below]
  omega

instance : LinearOrder Value where
  le_refl a := (le_iff_lt_or_eq a a).2 (.inr rfl)
  le_trans a b c hab hbc := by
    change c.below a = false
    change b.below a = false at hab
    change c.below b = false at hbc
    cases a <;> cases b <;> cases c <;> simp_all [below]
    omega
  lt_iff_le_not_ge a b := by
    change a.below b = true ↔ b.below a = false ∧ ¬ a.below b = false
    cases a <;> cases b <;> simp [below]
    omega
  le_antisymm a b hab hba := by
    change b.below a = false at hab
    change a.below b = false at hba
    cases a <;> cases b <;> simp_all [below]
    omega
  le_total a b := by
    change b.below a = false ∨ a.below b = false
    cases a <;> cases b <;> simp [below]
    omega
  toDecidableLE a b := inferInstance
  toDecidableEq := inferInstance
  max_def a b := by
    change (if a < b then b else a) = if a ≤ b then b else a
    by_cases hab : a < b
    · rw [if_pos hab, if_pos ((le_iff_lt_or_eq a b).2 (.inl hab))]
    · rw [if_neg hab]
      split
      · rename_i hle
        exact ((le_iff_lt_or_eq a b).1 hle).resolve_left hab
      · rfl
  min_def a b := by
    change (if b < a then b else a) = if a ≤ b then a else b
    by_cases hba : b < a
    · rw [if_pos hba, if_neg (fun hab => absurd hba (not_lt.2 hab))]
    · rw [if_neg hba, if_pos (not_lt.1 hba)]

theorem negInf_le (a : Value) : negInf ≤ a := by
  change a.below negInf = false
  cases a <;> rfl

theorem le_posInf (a : Value) : a ≤ posInf := by
  change posInf.below a = false
  cases a <;> rfl

theorem not_fin_le_negInf (n : Int) : ¬ fin n ≤ negInf := by
  change ¬ negInf.below (fin n) = false
  simp [below]

theorem not_posInf_le_fin (n : Int) : ¬ posInf ≤ fin n := by
  change ¬ (fin n).below posInf = false
  simp [below]

end Value

/-! ## Values found in a window -/

namespace Window

def IsOpen (w : Window) : Prop := w.alpha < w.beta

theorem isClosed_iff {w : Window} : w.isClosed = true ↔ w.beta ≤ w.alpha :=
  ⟨of_decide_eq_true, decide_eq_true⟩

theorem isClosed_eq_false {w : Window} : w.isClosed = false ↔ w.IsOpen := by
  simp [isClosed, IsOpen]

/-- What a fail-soft search of a position of value `v` may return. -/
structure Admits (w : Window) (r : Value) (v : Int) : Prop where
  upper : r ≤ w.alpha → .fin v ≤ r
  lower : w.beta ≤ r → r ≤ .fin v
  exact : w.alpha < r → r < w.beta → r = .fin v

theorem Admits.refl (w : Window) (v : Int) : w.Admits (.fin v) v :=
  ⟨fun _ => le_refl _, fun _ => le_refl _, fun _ _ => rfl⟩

/-- A value found is finite, as nothing lies beyond the infinite ends of a window. -/
theorem Admits.eq_fin {w : Window} {r : Value} {v : Int} (h : w.Admits r v) :
    ∃ n, r = .fin n := by
  cases r with
  | negInf => exact absurd (h.upper (Value.negInf_le _)) (Value.not_fin_le_negInf v)
  | fin n => exact ⟨n, rfl⟩
  | posInf => exact absurd (h.lower (Value.le_posInf _)) (Value.not_posInf_le_fin v)

end Window

/-! ## Table entries -/

namespace Entry

/-- The entry's value bounds `v` in the way that its kind says. -/
def Truthful (e : Entry) (v : Int) : Prop :=
  match e.bound with
  | .exact => e.value = .fin v
  | .lower => e.value ≤ .fin v
  | .upper => .fin v ≤ e.value
  | .unknown _ => True

end Entry

namespace Window

/-- A truthful entry moves an end of the window at most up to the true value. -/
theorem Admits.of_narrow {w : Window} {e : Entry} {r : Value} {v : Int} (he : e.Truthful v)
    (h : (e.narrow w).Admits r v) : w.Admits r v := by
  obtain ⟨depth, value, bound, best⟩ := e
  obtain ⟨hu, hl, hx⟩ := h
  cases bound <;> simp only [Entry.Truthful, Entry.narrow] at he hu hl hx
  · exact ⟨hu, hl, hx⟩
  · refine ⟨fun h => hu (by order), hl, fun h₁ h₂ => ?_⟩
    by_cases hr : r ≤ max w.alpha value
    · have := hu hr
      order
    · exact hx (by order) h₂
  · refine ⟨hu, fun h => hl (by order), fun h₁ h₂ => ?_⟩
    by_cases hr : min w.beta value ≤ r
    · have := hl hr
      order
    · exact hx h₁ (by order)
  · exact ⟨hu, hl, hx⟩

theorem Admits.of_answer {w : Window} {e : Entry} {v : Int} (hw : w.IsOpen) (he : e.Truthful v)
    (h : e.bound = .exact ∨ (e.narrow w).isClosed = true) : w.Admits e.value v := by
  obtain ⟨depth, value, bound, best⟩ := e
  simp only [IsOpen] at hw
  rw [isClosed_iff] at h
  cases bound <;> simp only [Entry.Truthful, Entry.narrow, reduceCtorEq, false_or, true_or] at he h
  · subst he
    exact .refl w v
  · exact ⟨fun h' => by order, fun _ => he, fun h₁ h₂ => by order⟩
  · exact ⟨fun _ => he, fun h' => by order, fun h₁ h₂ => by order⟩
  · order

/-- The entry that a search in an open window stores about its value. -/
theorem Admits.truthful_classify {w : Window} {r : Value} {v : Int} (h : w.Admits r v)
    (depth : Int) (best : Option Position) :
    (Entry.mk depth r (w.classify r) best).Truthful v := by
  simp only [Entry.Truthful, classify]
  split
  · rename_i hb
    split at hb
    · cases hb
    · split at hb
      · cases hb
      · exact h.exact (by order) (by order)
  · rename_i hb
    split at hb
    · cases hb
    · split at hb
      · exact h.lower (by assumption)
      · cases hb
  · rename_i hb
    split at hb
    · exact h.upper (by assumption)
    · split at hb <;> cases hb
  · trivial

end Window

end Reversi
