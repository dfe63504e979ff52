import Reversi.Proofs.Engine.Soundness

/-!
# Reversi.Proofs.Engine.Notes

The search with a list of notes, by positions, in place of a table by keys. It can be evaluated in
a proof, which a hash table cannot.

* `Search.retrace`: the search with notes.
* `Search.within_matches`: where different positions have different keys both searches do the same.
-/

namespace Reversi
namespace Search

abbrev Notes := List ((Board × Side) × Entry)

structure Recollection where
  value : Value
  best : Option Position
  notes : Notes

def scanNotes (maximize : Bool)
    (child : Square → Window → Notes → Except SearchFault Recollection) :
    List Square → Recollection → Window → Except SearchFault Recollection
  | [], found, _ => .ok found
  | s :: rest, found, w =>
    match child s w found.notes with
    | .error f => .error f
    | .ok r =>
      let found :=
        if better maximize r.value found.value then ⟨r.value, some s.position, r.notes⟩
        else { found with notes := r.notes }
      let w := tighten maximize w found.value
      if w.isClosed then .ok found else scanNotes maximize child rest found w

def retrace (p : Search) :
    Nat → Board → Side → Int → Window → Notes → Except SearchFault Recollection
  | 0, _, _, _, _, _ => .error .exhausted
  | fuel + 1, b, toMove, depth, w, notes =>
    let moves := b.legalMoves toMove
    if moves.isEmpty then
      if !b.hasLegalMove toMove.opponent then .ok ⟨.fin (b.finalValue p.player), none, notes⟩
      else if depth = 0 then .ok ⟨.fin (b.evaluate p.player), none, notes⟩
      else
        match retrace p fuel b toMove.opponent (depth - 1) w notes with
        | .error f => .error f
        | .ok r => .ok { r with best := none }
    else if depth = 0 then .ok ⟨.fin (b.evaluate p.player), none, notes⟩
    else
      let hit := notes.lookup (b, toMove)
      match consult hit depth w with
      | .answer value best => .ok ⟨value, best, notes⟩
      | .continue narrowed =>
        let ordered := promote (hit.bind (·.best)) (p.order b toMove moves)
        let maximize := toMove == p.player
        let child (s : Square) (w : Window) (notes : Notes) : Except SearchFault Recollection :=
          match b.play? toMove s with
          | none => .error (.illegal ⟨toMove, s.position⟩)
          | some next => retrace p fuel next toMove.opponent (depth - 1) w notes
        match scanNotes maximize child ordered ⟨worst maximize, none, notes⟩ narrowed with
        | .error f => .error f
        | .ok r =>
          .ok { r with
            notes := ((b, toMove), ⟨depth, r.value, w.classify r.value, r.best⟩) :: r.notes }

def childNotes (p : Search) (fuel : Nat) (b : Board) (t : Side) (depth : Int) (s : Square)
    (w : Window) (notes : Notes) : Except SearchFault Recollection :=
  match b.play? t s with
  | none => .error (.illegal ⟨t, s.position⟩)
  | some next => p.retrace fuel next t.opponent (depth - 1) w notes

theorem childNotes_of_legal {p : Search} {fuel : Nat} {b : Board} {t : Side} {depth : Int}
    {s : Square} {w : Window} {notes : Notes} (h : s ∈ b.legalMoves t) :
    p.childNotes fuel b t depth s w notes =
      p.retrace fuel (b.place t s) t.opponent (depth - 1) w notes := by
  have hp : b.play? t s = some (b.place t s) := Board.play?_eq_some_iff.2 ⟨h, rfl⟩
  simp only [childNotes, hp]

/-! ## Both searches do the same -/

/-- Table and notes say the same about the positions that `P` holds of. -/
def Agrees (p : Search) (P : Board → Side → Prop) (table : Table) (notes : Notes) : Prop :=
  ∀ b t, P b t → table[p.key b t]? = notes.lookup (b, t)

inductive Matches (p : Search) (P : Board → Side → Prop) :
    Except SearchFault Finding → Except SearchFault Recollection → Prop where
  | error (f : SearchFault) : Matches p P (.error f) (.error f)
  | ok (value : Value) (best : Option Position) {table : Table} {notes : Notes} :
      p.Agrees P table notes → Matches p P (.ok ⟨value, best, table⟩) (.ok ⟨value, best, notes⟩)

variable {p : Search} {P : Board → Side → Prop} {table : Table} {notes : Notes}

theorem agrees_empty (p : Search) (P : Board → Side → Prop) : p.Agrees P ∅ [] := by
  intro b t _
  simp

theorem Agrees.insert (h : p.Agrees P table notes) (hkeys : p.KeysApart P) {b : Board} {t : Side}
    (hb : P b t) (e : Entry) : p.Agrees P (table.insert (p.key b t) e) (((b, t), e) :: notes) := by
  intro c u hc
  rw [Std.HashMap.getElem?_insert, List.lookup_cons]
  by_cases hsame : c = b ∧ u = t
  · obtain ⟨rfl, rfl⟩ := hsame
    simp
  · have hkey : (p.key b t == p.key c u) = false := by
      rw [beq_eq_false_iff_ne]
      intro hkey
      obtain ⟨rfl, rfl⟩ := hkeys b t c u hb hc hkey
      exact hsame ⟨rfl, rfl⟩
    have hpair : ((c, u) == (b, t)) = false := by
      rw [beq_eq_false_iff_ne]
      intro hpair
      cases hpair
      exact hsame ⟨rfl, rfl⟩
    simp only [hkey, hpair, Bool.false_eq_true, if_false]
    exact h c u hc

theorem scan_matches {maximize : Bool}
    {child : Square → Window → Table → Except SearchFault Finding}
    {child' : Square → Window → Notes → Except SearchFault Recollection} {moves : List Square}
    (hchild : ∀ s ∈ moves, ∀ w table notes, p.Agrees P table notes →
      p.Matches P (child s w table) (child' s w notes))
    (value : Value) (best : Option Position) (w : Window) (h : p.Agrees P table notes) :
    p.Matches P (scan maximize child moves ⟨value, best, table⟩ w)
      (scanNotes maximize child' moves ⟨value, best, notes⟩ w) := by
  induction moves generalizing value best w table notes with
  | nil => exact .ok value best h
  | cons s rest ih =>
    have hs := hchild s List.mem_cons_self w table notes h
    have hrest := fun s' hs' => hchild s' (List.mem_cons_of_mem _ hs')
    simp only [scan, scanNotes]
    generalize child s w table = r at hs
    generalize child' s w notes = r' at hs
    cases hs with
    | error f => exact .error f
    | @ok value' best' table' notes' h' =>
      simp only
      cases better maximize value' value with
      | true =>
        simp only [if_true]
        split
        · exact .ok value' _ h'
        · exact ih hrest value' _ _ h'
      | false =>
        simp only [Bool.false_eq_true, if_false]
        split
        · exact .ok value best h'
        · exact ih hrest value best _ h'

theorem Matches.store {x : Except SearchFault Finding} {y : Except SearchFault Recollection}
    (hkeys : p.KeysApart P) {b : Board} {t : Side} (hb : P b t) (depth : Int) (w : Window) :
    p.Matches P x y → p.Matches P
      (match x with
        | .error f => .error f
        | .ok r => .ok { r with
            table := r.table.insert (p.key b t) ⟨depth, r.value, w.classify r.value, r.best⟩ })
      (match y with
        | .error f => .error f
        | .ok r => .ok { r with
            notes := ((b, t), ⟨depth, r.value, w.classify r.value, r.best⟩) :: r.notes }) := by
  intro h
  cases h with
  | error f => exact .error f
  | ok value best h => exact .ok value best (h.insert hkeys hb _)

/-- A node that is stored is one that a search of depth `d` from `root` expands. -/
theorem within_matches {root : Board} {mover : Side} {d : Nat} (hp : p.Orderly)
    (hkeys : p.KeysApart (root.Expanded mover d)) (fuel : Nat) {b : Board} {t : Side} {k n : Nat}
    {w : Window} (hlead : root.Leads mover k b t) (hn : k + n = d)
    (h : p.Agrees (root.Expanded mover d) table notes) :
    p.Matches (root.Expanded mover d) (p.within fuel b t (n : Nat) w table)
      (p.retrace fuel b t (n : Nat) w notes) := by
  induction fuel generalizing b t k n w table notes with
  | zero => exact .error _
  | succ fuel ih =>
    rw [within, retrace]
    cases ht : b.hasLegalMove t with
    | false =>
      simp only [Board.legalMoves_eq_nil_iff.2 ht, List.isEmpty_nil, if_true]
      cases ho : b.hasLegalMove t.opponent with
      | false => exact .ok _ _ h
      | true =>
        simp only [Bool.not_true, Bool.false_eq_true, if_false]
        cases n with
        | zero => exact .ok _ _ h
        | succ n =>
          have hless : ((n + 1 : Nat) : Int) - 1 = (n : Nat) := by omega
          rw [if_neg (by omega), if_neg (by omega), hless]
          have hpass := ih (w := w) (hlead.pass ht ho) (by omega : k + 1 + n = d) h
          generalize p.within fuel b t.opponent (n : Nat) w table = r at hpass
          generalize p.retrace fuel b t.opponent (n : Nat) w notes = r' at hpass
          cases hpass with
          | error f => exact .error f
          | ok value best h' => exact .ok value none h'
    | true =>
      simp only [Board.isEmpty_legalMoves ht, Bool.false_eq_true, if_false]
      cases n with
      | zero => exact .ok _ _ h
      | succ n =>
        have hless : ((n + 1 : Nat) : Int) - 1 = (n : Nat) := by omega
        have hroot : root.Expanded mover d b t := ⟨ht, k, by omega, hlead⟩
        rw [if_neg (by omega), if_neg (by omega), h b t hroot]
        generalize consult (notes.lookup (b, t)) ((n + 1 : Nat) : Int) w = c
        cases c with
        | answer value best => exact .ok value best h
        | «continue» narrowed =>
          have hchild : ∀ s ∈ promote ((notes.lookup (b, t)).bind (·.best))
              (p.order b t (b.legalMoves t)), ∀ w table notes,
              p.Agrees (root.Expanded mover d) table notes →
              p.Matches (root.Expanded mover d) (p.child fuel b t ((n + 1 : Nat) : Int) s w table)
                (p.childNotes fuel b t ((n + 1 : Nat) : Int) s w notes) := by
            intro s hs w table notes h
            have hlegal : s ∈ b.legalMoves t :=
              ((promote_perm _ _).trans (hp b t _)).mem_iff.1 hs
            rw [child_of_legal hlegal, childNotes_of_legal hlegal, hless]
            exact ih (hlead.place hlegal) (by omega) h
          exact .store hkeys hroot ((n + 1 : Nat) : Int) w
            (scan_matches hchild (worst (t == p.player)) none narrowed h)

end Search
end Reversi
