import Reversi.Engine.Evaluation
import Reversi.Engine.Table

/-!
# Reversi.Engine.Search

Alpha-beta search with a transposition table. The search is fail-soft: a value outside the
window is a bound of the true value.

* `Search`: whose values are searched, the key of a position and the order of placements.
* `Search.scan`: tries placements in turn until the window closes.
* `Search.within`: the search with a bound on the number of nested calls.
* `Search.run`: a bound that is always enough, as every two nested calls fill a square.
-/

namespace Reversi

structure Search where
  player : Side
  key : Board → Side → UInt64
  order : Board → Side → List Square → List Square

inductive SearchFault where
  | exhausted
  | illegal (placement : IllegalPlacement)
  deriving DecidableEq

/-- What a search found, and the table after it. -/
structure Finding where
  value : Value
  best : Option Position
  table : Table

namespace Search

/-- The placement that the table proposes comes first, if it is legal. -/
def promote (proposal : Option Position) (moves : List Square) : List Square :=
  match proposal.bind Position.square? with
  | none => moves
  | some s => if s ∈ moves then s :: moves.erase s else moves

theorem promote_perm (proposal : Option Position) (moves : List Square) :
    (promote proposal moves).Perm moves := by
  unfold promote
  split
  · exact .refl _
  · split
    · rename_i hs
      exact (List.perm_cons_erase hs).symm
    · exact .refl _

/-- A strictly better value replaces what was best so far. -/
def better (maximize : Bool) (new old : Value) : Bool :=
  if maximize then decide (old < new) else decide (new < old)

def tighten (maximize : Bool) (w : Window) (v : Value) : Window :=
  if maximize then { w with alpha := max w.alpha v } else { w with beta := min w.beta v }

def scan (maximize : Bool) (child : Square → Window → Table → Except SearchFault Finding) :
    List Square → Finding → Window → Except SearchFault Finding
  | [], found, _ => .ok found
  | s :: rest, found, w =>
    match child s w found.table with
    | .error f => .error f
    | .ok r =>
      let found :=
        if better maximize r.value found.value then ⟨r.value, some s.position, r.table⟩
        else { found with table := r.table }
      let w := tighten maximize w found.value
      if w.isClosed then .ok found else scan maximize child rest found w

/-- A position that the table does not know is searched in the whole window. -/
def consult (hit : Option Entry) (depth : Int) (w : Window) : Consultation :=
  match hit with
  | none => .continue w
  | some e => e.consult depth w

/-- The value of nothing tried yet. -/
def worst (maximize : Bool) : Value := if maximize then .negInf else .posInf

def within (p : Search) :
    Nat → Board → Side → Int → Window → Table → Except SearchFault Finding
  | 0, _, _, _, _, _ => .error .exhausted
  | fuel + 1, b, toMove, depth, w, table =>
    let moves := b.legalMoves toMove
    if moves.isEmpty then
      if !b.hasLegalMove toMove.opponent then .ok ⟨.fin (b.finalValue p.player), none, table⟩
      else if depth = 0 then .ok ⟨.fin (b.evaluate p.player), none, table⟩
      else
        match within p fuel b toMove.opponent (depth - 1) w table with
        | .error f => .error f
        | .ok r => .ok { r with best := none }
    else if depth = 0 then .ok ⟨.fin (b.evaluate p.player), none, table⟩
    else
      let key := p.key b toMove
      let hit := table[key]?
      match consult hit depth w with
      | .answer value best => .ok ⟨value, best, table⟩
      | .continue narrowed =>
        let ordered := promote (hit.bind (·.best)) (p.order b toMove moves)
        let maximize := toMove == p.player
        let child (s : Square) (w : Window) (table : Table) : Except SearchFault Finding :=
          match b.play? toMove s with
          | none => .error (.illegal ⟨toMove, s.position⟩)
          | some next => within p fuel next toMove.opponent (depth - 1) w table
        match scan maximize child ordered ⟨worst maximize, none, table⟩ narrowed with
        | .error f => .error f
        | .ok r =>
          .ok { r with table := r.table.insert key ⟨depth, r.value, w.classify r.value, r.best⟩ }

def run (p : Search) (b : Board) (toMove : Side) (depth : Int) (w : Window) (table : Table) :
    Except SearchFault Finding :=
  p.within (2 * b.empties + 1) b toMove depth w table

end Search

end Reversi
