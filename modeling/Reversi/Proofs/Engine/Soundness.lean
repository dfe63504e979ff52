import Reversi.Proofs.Engine.Scan
import Reversi.Proofs.Plies

/-!
# Reversi.Proofs.Engine.Soundness

What a search with a shared table may rely on, and what it returns.

* `Search.within_ended`, `within_leaf`, `within_pass`, `within_move`: one equation for each way in
  which a call goes on.
* `Search.Node`: everything one call of the search can do, one constructor for each way to end.
* `Search.Regime`: which nodes of a search have to return the truth, and what the table says about
  positions meanwhile. Entries that such a node reads are truthful for its depth, and entries that
  a node writes keep the table in order.
* `Search.Regime.within_sound`: under a regime the table stays in order, and the value of a settled
  node is its plain value, as far as the window asks for it.
* `Search.Regime.within_best`: where no entry is deep enough to be used, the placement found is a
  best one.
-/

namespace Reversi
namespace Search

/-- The legal placements are tried in some order. -/
def Orderly (p : Search) : Prop := ∀ b t moves, (p.order b t moves).Perm moves

/-- Different positions, of those that `P` holds of, have different keys. -/
def KeysApart (p : Search) (P : Board → Side → Prop) : Prop :=
  ∀ b t c u, P b t → P c u → p.key b t = p.key c u → b = c ∧ t = u

theorem keysApart_of_unique {p : Search} {P : Board → Side → Prop} {b : Board} {t : Side}
    (h : ∀ c u, P c u → c = b ∧ u = t) : p.KeysApart P := by
  intro c u c' u' hc hc' _
  obtain ⟨rfl, rfl⟩ := h c u hc
  obtain ⟨rfl, rfl⟩ := h c' u' hc'
  exact ⟨rfl, rfl⟩

theorem keysApart_of_nodup {p : Search} {P : Board → Side → Prop} {positions : List (Board × Side)}
    (hmem : ∀ {c u}, P c u → (c, u) ∈ positions)
    (hkeys : (positions.map fun x => p.key x.1 x.2).Nodup) : p.KeysApart P :=
  fun _ _ _ _ h h' hkey => Prod.mk.inj (List.inj_on_of_nodup_map hkeys (hmem h) (hmem h') hkey)

/-- Of the positions that `P` holds of, the table says nothing but what is allowed. -/
def Remembers (p : Search) (P : Board → Side → Prop) (Allowed : Board → Side → Entry → Prop)
    (table : Table) : Prop :=
  ∀ b t e, P b t → table[p.key b t]? = some e → Allowed b t e

theorem remembers_empty (p : Search) (P : Board → Side → Prop)
    (Allowed : Board → Side → Entry → Prop) : p.Remembers P Allowed ∅ := by
  intro b t e _ he
  simp at he

theorem Remembers.insert {p : Search} {P : Board → Side → Prop}
    {Allowed : Board → Side → Entry → Prop} {table : Table} {b : Board} {t : Side} {e : Entry}
    (h : p.Remembers P Allowed table) (hkeys : p.KeysApart P) (hb : P b t) (he : Allowed b t e) :
    p.Remembers P Allowed (table.insert (p.key b t) e) := by
  intro c u e' hc he'
  rw [Std.HashMap.getElem?_insert] at he'
  split at he'
  · rename_i hkey
    cases he'
    obtain ⟨rfl, rfl⟩ := hkeys b t c u hb hc (beq_iff_eq.1 hkey)
    exact he
  · exact h c u e' hc he'

theorem Remembers.mono {p : Search} {P : Board → Side → Prop}
    {Allowed Allowed' : Board → Side → Entry → Prop} {table : Table}
    (h : p.Remembers P Allowed table)
    (hmono : ∀ {b t e}, P b t → Allowed b t e → Allowed' b t e) :
    p.Remembers P Allowed' table :=
  fun b t e hb he => hmono hb (h b t e hb he)

def child (p : Search) (fuel : Nat) (b : Board) (t : Side) (depth : Int) (s : Square) (w : Window)
    (table : Table) : Except SearchFault Finding :=
  match b.play? t s with
  | none => .error (.illegal ⟨t, s.position⟩)
  | some next => p.within fuel next t.opponent (depth - 1) w table

theorem child_of_legal {p : Search} {fuel : Nat} {b : Board} {t : Side} {depth : Int} {s : Square}
    {w : Window} {table : Table} (h : s ∈ b.legalMoves t) :
    p.child fuel b t depth s w table =
      p.within fuel (b.place t s) t.opponent (depth - 1) w table := by
  have hp : b.play? t s = some (b.place t s) := Board.play?_eq_some_iff.2 ⟨h, rfl⟩
  simp only [child, hp]

def tries (p : Search) (b : Board) (t : Side) (table : Table) : List Square :=
  promote (table[p.key b t]?.bind (·.best)) (p.order b t (b.legalMoves t))

theorem tries_perm {p : Search} (hp : p.Orderly) (b : Board) (t : Side) (table : Table) :
    (p.tries b t table).Perm (b.legalMoves t) :=
  (promote_perm _ _).trans (hp b t _)

/-! ## The ways in which a call ends -/

section Calls

variable {p : Search} {fuel : Nat} {b : Board} {t : Side} {depth : Int} {w : Window} {table : Table}

theorem within_ended (ht : b.hasLegalMove t = false) (ho : b.hasLegalMove t.opponent = false) :
    p.within (fuel + 1) b t depth w table = .ok ⟨.fin (b.finalValue p.player), none, table⟩ := by
  simp [within, Board.legalMoves_eq_nil_iff.2 ht, ho]

theorem within_leaf (h : b.hasLegalMove t = true ∨ b.hasLegalMove t.opponent = true) :
    p.within (fuel + 1) b t 0 w table = .ok ⟨.fin (b.evaluate p.player), none, table⟩ := by
  cases ht : b.hasLegalMove t with
  | false =>
    have ho := h.resolve_left (by simp [ht])
    simp [within, Board.legalMoves_eq_nil_iff.2 ht, ho]
  | true => simp [within, Board.isEmpty_legalMoves ht]

theorem within_pass (ht : b.hasLegalMove t = false) (ho : b.hasLegalMove t.opponent = true)
    (hdepth : depth ≠ 0) :
    p.within (fuel + 1) b t depth w table =
      (p.within fuel b t.opponent (depth - 1) w table).map fun r => { r with best := none } := by
  rw [within]
  simp only [Board.legalMoves_eq_nil_iff.2 ht, List.isEmpty_nil, if_true, ho, Bool.not_true,
    Bool.false_eq_true, if_false, if_neg hdepth]
  cases p.within fuel b t.opponent (depth - 1) w table <;> rfl

theorem within_move (ht : b.hasLegalMove t = true) (hdepth : depth ≠ 0) :
    p.within (fuel + 1) b t depth w table =
      match consult table[p.key b t]? depth w with
      | .answer value best => .ok ⟨value, best, table⟩
      | .continue narrowed =>
        (scan (t == p.player) (p.child fuel b t depth) (p.tries b t table)
          ⟨worst (t == p.player), none, table⟩ narrowed).map fun r =>
            { r with table :=
              r.table.insert (p.key b t) ⟨depth, r.value, w.classify r.value, r.best⟩ } := by
  rw [within]
  simp only [Board.isEmpty_legalMoves ht, Bool.false_eq_true, if_false, if_neg hdepth]
  cases consult table[p.key b t]? depth w with
  | answer value best => rfl
  | «continue» narrowed =>
    unfold child tries
    dsimp only
    generalize scan _ _ _ _ narrowed = found
    cases found <;> rfl

end Calls

/-- The entry under a position's key, if it is deep enough for a search of this depth. -/
def Usable (p : Search) (table : Table) (b : Board) (t : Side) (depth : Int) (e : Entry) : Prop :=
  table[p.key b t]? = some e ∧ depth ≤ e.depth

/-- What one call of the search found, by the way in which it ended. -/
inductive Node (p : Search) (fuel : Nat) (b : Board) (t : Side) (depth : Int) (w : Window)
    (table : Table) : Finding → Prop where
  | ended : b.hasLegalMove t = false → b.hasLegalMove t.opponent = false →
      Node p fuel b t depth w table ⟨.fin (b.finalValue p.player), none, table⟩
  | leaf : b.hasLegalMove t = true ∨ b.hasLegalMove t.opponent = true → depth = 0 →
      Node p fuel b t depth w table ⟨.fin (b.evaluate p.player), none, table⟩
  | pass {r : Finding} : b.hasLegalMove t = false → b.hasLegalMove t.opponent = true → depth ≠ 0 →
      p.within fuel b t.opponent (depth - 1) w table = .ok r →
      Node p fuel b t depth w table { r with best := none }
  | answer {e : Entry} : b.hasLegalMove t = true → depth ≠ 0 → p.Usable table b t depth e →
      (e.bound = .exact ∨ (e.narrow w).isClosed = true) →
      Node p fuel b t depth w table ⟨e.value, e.best, table⟩
  | searched {narrowed : Window} {moves : List Square} {r : Finding} : b.hasLegalMove t = true →
      depth ≠ 0 →
      (narrowed = w ∨ ∃ e, p.Usable table b t depth e ∧ narrowed = e.narrow w) →
      (w.IsOpen → narrowed.IsOpen) → moves.Perm (b.legalMoves t) →
      scan (t == p.player) (p.child fuel b t depth) moves
        ⟨worst (t == p.player), none, table⟩ narrowed = .ok r →
      Node p fuel b t depth w table
        { r with table := r.table.insert (p.key b t) ⟨depth, r.value, w.classify r.value, r.best⟩ }

theorem consult_eq_answer {hit : Option Entry} {depth : Int} {w : Window} {value : Value}
    {best : Option Position} (h : consult hit depth w = .answer value best) :
    ∃ e, hit = some e ∧ depth ≤ e.depth ∧ (e.bound = .exact ∨ (e.narrow w).isClosed = true) ∧
      value = e.value ∧ best = e.best := by
  cases hit with
  | none => simp [consult] at h
  | some e =>
    simp only [consult, Entry.consult] at h
    split at h
    · cases h
    · rename_i hd
      split at h
      · rename_i hc
        cases h
        exact ⟨e, rfl, not_lt.1 hd, hc, rfl, rfl⟩
      · cases h

theorem consult_eq_continue {hit : Option Entry} {depth : Int} {w narrowed : Window}
    (h : consult hit depth w = .continue narrowed) :
    (narrowed = w ∨ ∃ e, hit = some e ∧ depth ≤ e.depth ∧ narrowed = e.narrow w) ∧
      (w.IsOpen → narrowed.IsOpen) := by
  cases hit with
  | none =>
    cases h
    exact ⟨.inl rfl, id⟩
  | some e =>
    simp only [consult, Entry.consult] at h
    split at h
    · cases h
      exact ⟨.inl rfl, id⟩
    · rename_i hd
      split at h
      · cases h
      · rename_i hc
        cases h
        refine ⟨.inr ⟨e, rfl, not_lt.1 hd, rfl⟩, fun _ => ?_⟩
        exact Window.isClosed_eq_false.1 (Bool.eq_false_iff.2 fun h => hc (.inr h))

theorem node_of_within {p : Search} {fuel : Nat} {b : Board} {t : Side} {depth : Int} {w : Window}
    {table : Table} {r : Finding} (hp : p.Orderly)
    (h : p.within (fuel + 1) b t depth w table = .ok r) : p.Node fuel b t depth w table r := by
  cases ht : b.hasLegalMove t with
  | false =>
    cases ho : b.hasLegalMove t.opponent with
    | false =>
      rw [within_ended ht ho] at h
      cases h
      exact .ended ht ho
    | true =>
      by_cases hd : depth = 0
      · subst hd
        rw [within_leaf (.inr ho)] at h
        cases h
        exact .leaf (.inr ho) rfl
      · rw [within_pass ht ho hd] at h
        cases hr : p.within fuel b t.opponent (depth - 1) w table with
        | error f => simp [hr, Except.map] at h
        | ok r' =>
          rw [hr] at h
          cases h
          exact .pass ht ho hd hr
  | true =>
    by_cases hd : depth = 0
    · subst hd
      rw [within_leaf (.inl ht)] at h
      cases h
      exact .leaf (.inl ht) rfl
    · rw [within_move ht hd] at h
      split at h
      · rename_i value best hc
        cases h
        obtain ⟨e, he, hdeep, hend, rfl, rfl⟩ := consult_eq_answer hc
        exact .answer ht hd ⟨he, hdeep⟩ hend
      · rename_i narrowed hc
        cases hr : scan (t == p.player) (p.child fuel b t depth) (p.tries b t table)
            ⟨worst (t == p.player), none, table⟩ narrowed with
        | error f => simp [hr, Except.map] at h
        | ok r' =>
          rw [hr] at h
          cases h
          obtain ⟨hnarrow, hopen⟩ := consult_eq_continue hc
          exact .searched ht hd (hnarrow.imp_right fun ⟨e, he, hdeep, hn⟩ => ⟨e, ⟨he, hdeep⟩, hn⟩)
            hopen (tries_perm hp b t table) hr

/-! ## Truth under a regime -/

/-- What holds during a search of depth `d` from `root` with `mover` to move. A node of the search
is a position that is reached after `k` plies and has `n` plies left. -/
structure Regime (p : Search) (root : Board) (mover : Side) (d : Nat) where
  /-- The positions whose entries matter. -/
  Watched : Board → Side → Prop
  /-- What the table may say about a watched position. -/
  Allowed : Board → Side → Entry → Prop
  /-- The nodes whose results have to be true. -/
  Settled : Board → Side → Nat → Prop
  orderly : p.Orderly
  keysApart : p.KeysApart Watched
  watched : ∀ {b t}, root.Expanded mover d b t → Watched b t
  settled_place : ∀ {b t n s}, Settled b t (n + 1) → s ∈ b.legalMoves t →
    Settled (b.place t s) t.opponent n
  settled_pass : ∀ {b t n}, Settled b t (n + 1) → b.hasLegalMove t = false →
    b.hasLegalMove t.opponent = true → Settled b t.opponent n
  /-- An entry that is deep enough for a settled node is truthful at its depth. -/
  truthful : ∀ {k b t n e}, root.Leads mover k b t → k + (n + 1) = d → Settled b t (n + 1) →
    b.hasLegalMove t = true → Allowed b t e → ((n + 1 : Nat) : Int) ≤ e.depth →
    e.Truthful (b.minimax p.player (n + 1) t)
  /-- What a node may write about itself. -/
  allowed : ∀ {k b t n e}, root.Leads mover k b t → k + (n + 1) = d → b.hasLegalMove t = true →
    e.depth = ((n + 1 : Nat) : Int) →
    (Settled b t (n + 1) → e.Truthful (b.minimax p.player (n + 1) t)) → Allowed b t e

namespace Regime

variable {p : Search} {root b : Board} {mover t : Side} {d n fuel : Nat} {w : Window}
  {table : Table} {r : Finding} {R : Regime p root mover d}

def Visits (_ : Regime p root mover d) (b : Board) (t : Side) (n : Nat) : Prop :=
  ∃ k, root.Leads mover k b t ∧ k + n = d

theorem visits_root (R : Regime p root mover d) : R.Visits root mover d := ⟨0, .here, d.zero_add⟩

theorem Visits.place {s : Square} (h : R.Visits b t (n + 1)) (hs : s ∈ b.legalMoves t) :
    R.Visits (b.place t s) t.opponent n := by
  obtain ⟨k, hk, hn⟩ := h
  exact ⟨k + 1, hk.place hs, by omega⟩

theorem Visits.pass (h : R.Visits b t (n + 1)) (ht : b.hasLegalMove t = false)
    (ho : b.hasLegalMove t.opponent = true) : R.Visits b t.opponent n := by
  obtain ⟨k, hk, hn⟩ := h
  exact ⟨k + 1, hk.pass ht ho, by omega⟩

theorem Visits.watched (h : R.Visits b t (n + 1)) (ht : b.hasLegalMove t = true) :
    R.Watched b t := by
  obtain ⟨k, hk, hn⟩ := h
  exact R.watched ⟨ht, k, by omega, hk⟩

def Keeps (R : Regime p root mover d) (table : Table) : Prop :=
  p.Remembers R.Watched R.Allowed table

theorem truthful_of_usable {e : Entry} (hvisits : R.Visits b t (n + 1)) (hkeeps : R.Keeps table)
    (ht : b.hasLegalMove t = true) (hsettled : R.Settled b t (n + 1))
    (hused : p.Usable table b t ((n + 1 : Nat) : Int) e) :
    e.Truthful (b.minimax p.player (n + 1) t) := by
  have hallowed := hkeeps b t e (hvisits.watched ht) hused.1
  obtain ⟨k, hk, hn⟩ := hvisits
  exact R.truthful hk hn hsettled ht hallowed hused.2

/-- What the induction proves of all nodes searched with less fuel. -/
def Truthful (R : Regime p root mover d) (fuel : Nat) : Prop :=
  ∀ {b t n w table r}, p.within fuel b t (n : Nat) w table = .ok r → R.Visits b t n → w.IsOpen →
    R.Keeps table → R.Keeps r.table ∧ (R.Settled b t n → w.Admits r.value (b.minimax p.player n t))

theorem scan_sound (ih : R.Truthful fuel) {moves : List Square}
    (hmoves : moves.Perm (b.legalMoves t)) (hvisits : R.Visits b t (n + 1)) (hw : w.IsOpen)
    (hkeeps : R.Keeps table)
    (h : scan (t == p.player) (p.child fuel b t ((n + 1 : Nat) : Int)) moves
      ⟨worst (t == p.player), none, table⟩ w = .ok r) :
    R.Keeps r.table ∧ (R.Settled b t (n + 1) → Sound (t == p.player)
      (fun s => (b.place t s).minimax p.player n t.opponent) w moves r) := by
  refine Search.scan_sound hw hkeeps (fun s hs w table r hr hw hkeeps => ?_) h
  have hlegal : s ∈ b.legalMoves t := hmoves.mem_iff.1 hs
  have hdepth : ((n + 1 : Nat) : Int) - 1 = (n : Nat) := by omega
  rw [child_of_legal hlegal, hdepth] at hr
  obtain ⟨hkeeps', htrue⟩ := ih hr (hvisits.place hlegal) hw hkeeps
  exact ⟨hkeeps', fun hsettled => htrue (R.settled_place hsettled hlegal)⟩

/-- The plain value is the best one in whatever order the placements are tried. -/
theorem optimal_of_perm {moves : List Square} (hmoves : moves.Perm (b.legalMoves t))
    (ht : b.hasLegalMove t = true) :
    Optimal (t == p.player) moves (fun s => (b.place t s).minimax p.player n t.opponent)
      (b.minimax p.player (n + 1) t) := by
  have hlegal : Optimal (t == p.player) (b.legalMoves t)
      (fun s => (b.place t s).minimax p.player n t.opponent) (b.minimax p.player (n + 1) t) :=
    Board.minimax_optimal ht
  obtain ⟨⟨s, hs, hvalue⟩, hbound⟩ := hlegal
  exact ⟨⟨s, hmoves.mem_iff.2 hs, hvalue⟩, fun s' hs' => hbound s' (hmoves.mem_iff.1 hs')⟩

/-- What a searched node returns and writes, if the loop found the truth in the window `narrowed`
and whatever narrowed the window is true. -/
theorem searched_sound {narrowed : Window} {moves : List Square}
    (hmoves : moves.Perm (b.legalMoves t)) (ht : b.hasLegalMove t = true)
    (hvisits : R.Visits b t (n + 1)) (hkeeps : R.Keeps r.table)
    (hsound : R.Settled b t (n + 1) → Sound (t == p.player)
      (fun s => (b.place t s).minimax p.player n t.opponent) narrowed moves r)
    (hnarrow : R.Settled b t (n + 1) →
      narrowed.Admits r.value (b.minimax p.player (n + 1) t) →
      w.Admits r.value (b.minimax p.player (n + 1) t)) :
    R.Keeps (r.table.insert (p.key b t)
        ⟨((n + 1 : Nat) : Int), r.value, w.classify r.value, r.best⟩) ∧
      (R.Settled b t (n + 1) → w.Admits r.value (b.minimax p.player (n + 1) t)) := by
  have hadmits : R.Settled b t (n + 1) → w.Admits r.value (b.minimax p.player (n + 1) t) :=
    fun hsettled => hnarrow hsettled ((hsound hsettled).admits _ (optimal_of_perm hmoves ht))
  refine ⟨hkeeps.insert R.keysApart (hvisits.watched ht) ?_, hadmits⟩
  obtain ⟨k, hk, hn⟩ := hvisits
  exact R.allowed hk hn ht rfl fun hsettled => (hadmits hsettled).truthful_classify _ _

theorem within_sound (R : Regime p root mover d) (fuel : Nat) : R.Truthful fuel := by
  induction fuel with
  | zero =>
    intro b t n w table r h
    cases h
  | succ fuel ih =>
    intro b t n w table r h hvisits hw hkeeps
    have hsucc : ((n : Nat) : Int) ≠ 0 → ∃ m, n = m + 1 := fun hn => ⟨n - 1, by omega⟩
    cases node_of_within R.orderly h with
    | ended ht ho =>
      rw [Board.minimax_over ht ho]
      exact ⟨hkeeps, fun _ => .refl w _⟩
    | leaf hmove hn =>
      obtain rfl : n = 0 := by omega
      rw [Board.minimax_static hmove]
      exact ⟨hkeeps, fun _ => .refl w _⟩
    | @pass r ht ho hn hr =>
      obtain ⟨m, rfl⟩ := hsucc hn
      rw [show ((m + 1 : Nat) : Int) - 1 = (m : Nat) by omega] at hr
      obtain ⟨hkeeps', htrue⟩ := ih hr (hvisits.pass ht ho) hw hkeeps
      rw [Board.minimax_pass ht ho]
      exact ⟨hkeeps', fun hsettled => htrue (R.settled_pass hsettled ht ho)⟩
    | answer ht hn hused hend =>
      obtain ⟨m, rfl⟩ := hsucc hn
      refine ⟨hkeeps, fun hsettled => .of_answer hw ?_ hend⟩
      exact truthful_of_usable hvisits hkeeps ht hsettled hused
    | @searched narrowed moves r ht hn hnarrow hopen hmoves hr =>
      obtain ⟨m, rfl⟩ := hsucc hn
      obtain ⟨hkeeps', hsound⟩ := scan_sound ih hmoves hvisits (hopen hw) hkeeps hr
      refine searched_sound hmoves ht hvisits hkeeps' hsound fun hsettled hadmits => ?_
      rcases hnarrow with rfl | ⟨e, hused, rfl⟩
      · exact hadmits
      · exact .of_narrow (truthful_of_usable hvisits hkeeps ht hsettled hused) hadmits

/-- The root of a search whose entry, if there is one, is too shallow to be used. -/
theorem within_best (R : Regime p root mover d)
    (h : p.within fuel b t ((n + 1 : Nat) : Int) w table = .ok r) (hvisits : R.Visits b t (n + 1))
    (hsettled : R.Settled b t (n + 1)) (hw : w.IsOpen) (hkeeps : R.Keeps table)
    (hnew : ∀ e, ¬ p.Usable table b t ((n + 1 : Nat) : Int) e)
    (ht : b.hasLegalMove t = true) (hlow : w.alpha < r.value) (hhigh : r.value < w.beta) :
    ∃ s ∈ b.legalMoves t, r.best = some s.position ∧
      (b.place t s).minimax p.player n t.opponent = b.minimax p.player (n + 1) t := by
  obtain ⟨-, htrue⟩ := R.within_sound fuel h hvisits hw hkeeps
  have hvalue := (htrue hsettled).exact hlow hhigh
  cases fuel with
  | zero => cases h
  | succ fuel =>
    cases node_of_within R.orderly h with
    | ended ht' | pass ht' => simp [ht] at ht'
    | leaf _ hn => omega
    | answer _ _ hused => exact absurd hused (hnew _)
    | @searched narrowed moves r _ _ hnarrow _ hmoves hr =>
      obtain rfl : narrowed = w := hnarrow.resolve_right fun ⟨e, hused, _⟩ => hnew e hused
      obtain ⟨-, hsound⟩ := scan_sound (R.within_sound fuel) hmoves hvisits hw hkeeps hr
      obtain ⟨s, hs, hbest, hs'⟩ := (hsound hsettled).best hlow hhigh
      refine ⟨s, hmoves.mem_iff.1 hs, hbest, ?_⟩
      exact Value.fin.inj (hs'.symm.trans hvalue)

end Regime

end Search
end Reversi
