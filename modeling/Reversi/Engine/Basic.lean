import Reversi.Engine.Search
import Reversi.Zobrist

/-!
# Reversi.Engine.Basic

The engine as a player: it keeps its table from one choice to the next.

* `Engine.Setup`: the words of the positions, and the order in which a set of placements is met.
* `Engine`: side, search depth, table and the table size beyond which it starts afresh.
* `Engine.deepen`: searches of rising depth, of which the last proposal counts.
* `Engine.choose`: a legal placement for the engine's side, and the engine after the choice.
-/

namespace Reversi

/-- The legal placements form a set, which promises no order: `walk` says in which one they are met
before they are sorted. -/
structure Engine.Setup where
  words : Zobrist
  walk : Board → Side → List Square → List Square
  walk_perm : ∀ b toMove moves, (walk b toMove moves).Perm moves

/-- The placements are met row by row. -/
def Engine.Setup.ofWords (words : Zobrist) : Engine.Setup where
  words := words
  walk _ _ moves := moves
  walk_perm _ _ _ := .refl _

def Engine.Setup.standard : Engine.Setup := .ofWords .standard

structure Engine where
  side : Side
  depth : Int
  table : Table
  capacity : Int
  setup : Engine.Setup

inductive EngineFault where
  | wrongSide (plays asked : Side)
  | noMove (side : Side)
  | search (fault : SearchFault)
  deriving DecidableEq

namespace EngineFault

def message : EngineFault → String
  | wrongSide plays asked => s!"This AI plays {plays.label}, not {asked.label}"
  | noMove side => s!"No valid moves available for {side.label}"
  | search .exhausted => "Search did not end"
  | search (.illegal p) => s!"Search tried an illegal move at {p.target.text}"

end EngineFault

/-- A choice was `searched` unless there was only one legal placement. -/
structure Choice where
  square : Square
  searched : Bool
  engine : Engine

namespace Engine

def defaultDepth : Int := 3

def defaultCapacity : Int := 200000

def fresh (side : Side) (depth : Int) (setup : Setup := .standard) : Engine :=
  ⟨side, depth, ∅, defaultCapacity, setup⟩

def search (e : Engine) : Search where
  player := e.side
  key b toMove := e.setup.words.hash b (some toMove)
  order b toMove moves := b.ordered toMove (e.setup.walk b toMove moves)

def deepen (p : Search) (b : Board) :
    List Nat → Option Position → Table → Except SearchFault (Option Position × Table)
  | [], proposal, table => .ok (proposal, table)
  | d :: ds, proposal, table =>
    match p.run b p.player d .full table with
    | .error f => .error f
    | .ok r => deepen p b ds (r.best <|> proposal) r.table

/-- The depths searched one after the other. -/
def depths (e : Engine) : List Nat := List.range' 1 (max 1 e.depth).toNat

def startTable (e : Engine) : Table := if e.capacity < e.table.size then ∅ else e.table

/-- The proposal if it is legal, else the first legal square. -/
def settle (proposal : Option Position) (first : Square) (moves : List Square) : Square :=
  match proposal.bind Position.square? with
  | none => first
  | some s => if s ∈ moves then s else first

/-- `asked` is the side that the caller means, if it says so. -/
def choose (e : Engine) (b : Board) (asked : Option Side) : Except EngineFault Choice :=
  let side := asked.getD e.side
  if side ≠ e.side then .error (.wrongSide e.side side)
  else
    match b.legalMoves side with
    | [] => .error (.noMove side)
    | [s] => .ok ⟨s, false, e⟩
    | first :: rest =>
      match deepen e.search b e.depths none e.startTable with
      | .error f => .error (.search f)
      | .ok (proposal, table) =>
        .ok ⟨settle proposal first (first :: rest), true, { e with table := table }⟩

end Engine

end Reversi
