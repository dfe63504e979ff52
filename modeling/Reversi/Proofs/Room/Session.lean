import Reversi.Proofs.Room.Replies

/-!
# Reversi.Proofs.Room.Session

Rooms in which the engine holds the white seat.

* `Room.boardAfter`: the board after the placements of a log; a referee sees this board
  (`Referee.board_eq`).
* `Room.Called`: the boards on which the engine was called; `Room.Foreseen`: the positions that its
  searches there may store.
* `Room.Reliable`: choices are good and leave the table in order.
* `Room.Hosted`: the engine keeps its seat and its depth, its table is in order for the board, and
  all of White's placements are good ones.
* `Room.after_hosted`: reliable choices make a run in which every placement of White is good;
  `Room.replies_of_level` is the case of tables that are bounded by a level.
* `Referee.leads`, `Referee.leads_called`: the boards of a game lie on lines of play from its start,
  so that `Room.Refereed.keysApart` asks only about the positions of those lines.
* `Room.Stands`: a game followed placement by placement, and `Room.finale`, one with two passes in
  which each of White's choices is between two placements.
-/

namespace Reversi
namespace Room

def boardAfter (start : Board) (log : List MoveRecord) : Board :=
  log.foldl (fun b m => b.place m.side m.square) start

@[simp] theorem boardAfter_concat (start : Board) (log : List MoveRecord) (m : MoveRecord) :
    boardAfter start (log ++ [m]) = (boardAfter start log).place m.side m.square := by
  simp [boardAfter]

end Room

theorem Referee.board_eq {start b : Board} {log : List MoveRecord} {turn passed : Option Side}
    (h : Referee start log b turn passed) : b = Room.boardAfter start log := by
  induction h with
  | opening => rfl
  | placement _ hs hc _ ih =>
    rw [Room.boardAfter_concat, ← ih]
    exact Board.Becomes.eq_place hs hc

namespace Room

/-- The boards on which White has placed a disc. -/
def Called (start : Board) (log : List MoveRecord) (b : Board) : Prop :=
  ∃ before m after, log = before ++ m :: after ∧ m.side = .white ∧ boardAfter start before = b

/-- The side to move can move, fewer than `d` plies from a board on which the engine was called. -/
def Foreseen (start : Board) (log : List MoveRecord) (d : Nat) (c : Board) (u : Side) : Prop :=
  ∃ b, Called start log b ∧ b.Expanded .white d c u

/-- The engine plays White, and is what it was at first but for its table. -/
structure Opposing (depth : Int) (setup : Engine.Setup) (e : Engine) : Prop where
  side : e.side = .white
  depth : e.depth = depth
  setup : e.setup = setup

/-- The table is no part of a search. -/
theorem Opposing.search_eq {depth : Int} {setup : Engine.Setup} {e : Engine}
    (h : Opposing depth setup e) : e.search = (Engine.fresh .white depth setup).search := by
  simp only [Engine.search, h.side, h.setup, Engine.fresh]

theorem Opposing.choice {depth : Int} {setup : Engine.Setup} {e : Engine} {b : Board} {c : Choice}
    (h : Opposing depth setup e) (hc : e.choose b none = .ok c) :
    Opposing depth setup c.engine := by
  obtain ⟨table, hengine⟩ := Engine.choose_engine hc
  rw [hengine]
  exact ⟨h.side, h.depth, h.setup⟩

variable {start : Board} {depth : Int} {setup : Engine.Setup} {Kept : Board → Table → Prop}
  {Good : Board → Square → Prop} {r next : Room}

/-- What the choices of a run have to meet, if `log` is the log at its end: from a table in order
they are good and leave it in order, and placements do not bring it into disorder. -/
structure Reliable (start : Board) (depth : Int) (setup : Engine.Setup) (log : List MoveRecord)
    (Kept : Board → Table → Prop) (Good : Board → Square → Prop) : Prop where
  empty : Kept start ∅
  place : ∀ {b : Board} {side : Side} {s : Square} {table : Table}, s ∈ b.legalMoves side →
    Kept b table → Kept (b.place side s) table
  choice : ∀ {b : Board} {e : Engine} {c : Choice}, Called start log b →
    Opposing depth setup e → e.choose b none = .ok c → Kept b e.table →
    Good b c.square ∧ Kept (b.place .white c.square) c.engine.table

structure Hosted (start : Board) (depth : Int) (setup : Engine.Setup) (Kept : Board → Table → Prop)
    (Good : Board → Square → Prop) (r : Room) : Prop where
  engine : ∃ e, r.engine = some e ∧ Opposing depth setup e ∧ Kept r.board e.table
  guest : r.white = none
  board : r.board = boardAfter start r.log
  replies : ∀ before m after, r.log = before ++ m :: after → m.side = .white →
    Good (boardAfter start before) m.square

theorem concat_eq_append_cons {log before after : List MoveRecord} {last m : MoveRecord}
    (h : log ++ [last] = before ++ m :: after) :
    (before = log ∧ m = last) ∨ ∃ after', log = before ++ m :: after' := by
  rcases List.eq_nil_or_concat after with rfl | ⟨after', x, rfl⟩
  · obtain ⟨rfl, hm⟩ := List.append_inj' h rfl
    cases hm
    exact .inl ⟨rfl, rfl⟩
  · have h' : log ++ [last] = (before ++ m :: after') ++ [x] := by simpa using h
    exact .inr ⟨after', (List.append_inj' h' rfl).1⟩

theorem Hosted.empty (id : Int) (hstart : Kept start ∅) :
    Hosted start depth setup Kept Good (empty id .engine start depth setup) where
  engine := ⟨.fresh .white depth setup, rfl, ⟨rfl, rfl, rfl⟩, hstart⟩
  guest := rfl
  board := rfl
  replies before m after h := by simp [Room.empty, showSeats] at h

theorem Hosted.open_black (h : Hosted start depth setup Kept Good r) {side : Side}
    (hside : side ∈ r.openSeats) : side = .black := by
  obtain ⟨e, he, hopposing, -⟩ := h.engine
  cases side with
  | black => rfl
  | white => simp [openSeats, isTaken, he, hopposing.side] at hside

theorem Hosted.seat (h : Hosted start depth setup Kept Good r) {side : Side} (player : String)
    (hside : side ∈ r.openSeats) : Hosted start depth setup Kept Good (r.seat side player) := by
  obtain rfl := h.open_black hside
  exact ⟨h.engine, h.guest, h.board, h.replies⟩

theorem Hosted.mover_black (h : Hosted start depth setup Kept Good r) {player : String}
    {side : Side} (hmover : r.mover player = .ok side) : side = .black := by
  simp only [mover, seatOf, h.guest, reduceCtorEq, if_false] at hmover
  split at hmover
  · cases hmover
  · cases hmover
  · split at hmover
    · cases hmover
    · rename_i side' hseat
      split at hseat
      · cases hseat
        split at hmover
        · cases hmover
          rfl
        · cases hmover
      · cases hseat

theorem Hosted.played (h : Hosted start depth setup Kept Good r) {e : Engine} {side : Side}
    {s : Square} (hopposing : Opposing depth setup e)
    (hkept : Kept (r.board.place side s) e.table) (hgood : side = .white → Good r.board s) :
    Hosted start depth setup Kept Good (Room.played { r with engine := some e } side s) where
  engine := ⟨e, rfl, hopposing, hkept⟩
  guest := h.guest
  board := by
    simp only [Room.played, boardAfter_concat, ← h.board]
    rfl
  replies before m after hlog hm := by
    rcases concat_eq_append_cons hlog with ⟨rfl, rfl⟩ | ⟨after', hlog'⟩
    · rw [← h.board]
      exact hgood hm
    · exact h.replies before m after' hlog' hm

theorem Step.log_prefix (h : Step r next) : r.log <+: next.log := by
  cases h with
  | sit | start => simp
  | human | engine => exact List.prefix_append _ _

/-- One step, within a run whose log will be `log`. -/
theorem Hosted.step {log : List MoveRecord} (hrel : Reliable start depth setup log Kept Good)
    (h : Hosted start depth setup Kept Good r) (hstep : Step r next) (hlog : next.log <+: log) :
    Hosted start depth setup Kept Good next := by
  cases hstep with
  | sit player hopen => exact h.seat player (by simp [hopen])
  | @start side player hopen =>
    have hseat : Hosted start depth setup Kept Good (r.seat side player) :=
      h.seat player (by simp [hopen])
    obtain ⟨hengine, hguest, hboard, hreplies⟩ := hseat
    rw [seat_board] at hengine
    exact ⟨by simpa using hengine, hguest, by simpa using hboard, hreplies⟩
  | @human player side s hmover hs =>
    obtain ⟨e, he, hopposing, hkept⟩ := h.engine
    have hblack := h.mover_black hmover
    have hnext :
        Hosted start depth setup Kept Good (Room.played { r with engine := some e } side s) :=
      h.played hopposing (hrel.place hs hkept) (fun hw => by simp [hblack] at hw)
    rwa [← he] at hnext
  | @engine e c hdue hc hs =>
    obtain ⟨he, -⟩ := Option.filter_eq_some_iff.1 hdue
    obtain ⟨e', he', hopposing, hkept⟩ := h.engine
    obtain rfl : e = e' := Option.some.inj (he.symm.trans he')
    obtain ⟨rest, hrest⟩ := hlog
    have hcalled : Called start log r.board := by
      refine ⟨r.log, recordOf r.board e.side c.square, rest, ?_, hopposing.side, h.board.symm⟩
      rw [← hrest]
      exact List.append_assoc _ [_] rest
    obtain ⟨hgood, hkept'⟩ := hrel.choice hcalled hopposing hc hkept
    rw [← hopposing.side] at hkept'
    exact h.played (hopposing.choice hc) hkept' fun _ => hgood

/-- In a room with the engine all placements of White are good, if choices on the boards of the run
can be relied on. -/
theorem after_hosted (id : Int) (requests : List Request)
    (hrel : Reliable start depth setup ((empty id .engine start depth setup).after requests).log
      Kept Good) :
    Hosted start depth setup Kept Good ((empty id .engine start depth setup).after requests) := by
  generalize hlog : ((empty id .engine start depth setup).after requests).log = log at hrel
  have hrun : ((empty id .engine start depth setup).after requests).log <+: log →
      Hosted start depth setup Kept Good ((empty id .engine start depth setup).after requests) := by
    refine after_invariant (J := fun r => r.log <+: log → Hosted start depth setup Kept Good r)
      (fun _ => .empty id hrel.empty) (fun ih hstep hnext => ?_) requests
    exact (ih (hstep.log_prefix.trans hnext)).step hrel hstep hnext
  exact hrun (by rw [hlog])

/-- Good placements from tables that are bounded by a level, the depth less the number of free
squares: it rises as the squares fill up. -/
theorem replies_of_level {id : Int} {D : Nat} {requests : List Request} (p : Search)
    (Allowed : Int → Board → Side → Entry → Prop) (Good : Board → Square → Prop)
    (hr : (empty id .engine start D setup).after requests = r)
    (hmono : ∀ {m m' c u e}, m ≤ m' → Allowed m c u e → Allowed m' c u e)
    (hchoice : ∀ {b : Board} {e : Engine} {c : Choice}, Called start r.log b →
      Opposing D setup e → e.choose b none = .ok c →
      p.Remembers (Foreseen start r.log D) (Allowed ((D : Int) - b.empties - 1)) e.table →
      Good b c.square ∧
        p.Remembers (Foreseen start r.log D) (Allowed ((D : Int) - b.empties)) c.engine.table)
    (before : List MoveRecord) (m : MoveRecord) (after : List MoveRecord)
    (hlog : r.log = before ++ m :: after) (hm : m.side = .white) :
    Good (boardAfter start before) m.square := by
  have hrel : Reliable start D setup r.log
      (fun b table =>
        p.Remembers (Foreseen start r.log D) (Allowed ((D : Int) - b.empties - 1)) table) Good := by
    refine ⟨p.remembers_empty _ _, fun hs hkept => ?_, fun hcalled hopposing hc hkept => ?_⟩
    · have hfill := Board.empties_place_of_legal hs
      exact hkept.mono fun _ h => hmono (by omega) h
    · have hfill := Board.empties_place_of_legal (Engine.choose_legal hc)
      rw [hopposing.side] at hfill
      obtain ⟨hgood, hkept'⟩ := hchoice hcalled hopposing hc hkept
      exact ⟨hgood, hkept'.mono fun _ h => hmono (by omega) h⟩
  subst hr
  exact (after_hosted id requests hrel).replies before m after hlog hm

end Room

/-! ## Lines of play -/

variable {start b c : Board} {log : List MoveRecord} {turn passed : Option Side}

theorem Board.Leads.due {t due side : Side} {k : Nat} (h : b.Leads t k c due)
    (hdue : c.Due due (some side) passed) : ∃ j, b.Leads t j c side := by
  cases hdue with
  | plays => exact ⟨k, h⟩
  | passes hno ho =>
    have hstuck := Board.hasLegalMove_eq_false_iff.2 hno
    exact ⟨k + 1, h.pass hstuck (Board.hasLegalMove_iff_playable.2 ho)⟩

theorem Referee.leads {side : Side} (h : Referee start log b turn passed)
    (hturn : turn = some side) : ∃ k, start.Leads .black k b side := by
  induction h generalizing side with
  | opening hdue =>
    rw [hturn] at hdue
    exact Board.Leads.here.due hdue
  | placement _ hs hc hdue ih =>
    obtain ⟨k, hlead⟩ := ih rfl
    rw [hturn, hc.eq_place hs] at hdue
    rw [hc.eq_place hs]
    exact (hlead.place (Board.mem_legalMoves_iff_playable.2 hs)).due hdue

theorem Referee.leads_called (h : Referee start log b turn passed)
    (hcalled : Room.Called start log c) : ∃ k, start.Leads .black k c .white := by
  obtain ⟨before, m, after, hlog, hm, rfl⟩ := hcalled
  induction h generalizing after with
  | opening => simp at hlog
  | @placement log b _ side _ _ _ _ h _ _ _ ih =>
    rcases Room.concat_eq_append_cons hlog with ⟨rfl, rfl⟩ | ⟨after', hlog'⟩
    · obtain rfl : side = .white := hm
      rw [← h.board_eq]
      exact h.leads rfl
    · exact ih after' hlog'

namespace Room

/-- It is enough that keys tell all positions apart that can come about in the room. -/
theorem Refereed.keysApart {p : Search} {r : Room} {d : Nat} (h : Refereed start r)
    (hkeys : p.KeysApart (start.Expanded .black (2 * start.empties + 1))) :
    p.KeysApart (Foreseen start r.log d) := by
  have hmem : ∀ {c u}, Foreseen start r.log d c u →
      start.Expanded .black (2 * start.empties + 1) c u := by
    rintro c u ⟨b, hcalled, hu, k, -, hlead⟩
    have hplaying : r.phase ≠ .waiting := by
      intro hwait
      obtain ⟨before, m, after, hlog, -⟩ := hcalled
      rw [(h.waiting hwait).1] at hlog
      simp at hlog
    obtain ⟨j, hcall⟩ := (h.replay hplaying).leads_called hcalled
    have hline := hcall.trans hlead
    have hshort := hline.length_le
    exact ⟨hu, j + k, by omega, hline⟩
  exact fun _ _ _ _ hb hc => hkeys _ _ _ _ (hmem hb) (hmem hc)

end Room

/-! ## Games placement by placement -/

namespace Room

/-- A player is seated against the engine, and `due` is due after the placements of `log`. -/
structure Stands (r : Room) (player : String) (log : List MoveRecord) (b : Board) (due : Side) :
    Prop where
  engine : ∃ e, r.engine = some e ∧ e.side = .white
  black : r.black = some player
  log : r.log = log
  board : r.board = b
  phase : r.phase = .settle b due

namespace Stands

variable {r last : Room} {player : String} {log replies : List MoveRecord} {b : Board}
  {due : Side} {s : Square}

theorem begun {id : Int} {depth : Int} {setup : Engine.Setup} (player : String) :
    Stands ((empty id .engine b depth setup).begun .black player) player [] b .black :=
  ⟨⟨_, rfl, rfl⟩, rfl, rfl, rfl, rfl⟩

theorem reply (h : Stands r player log b due) (hturn : (Phase.settle b due).turn? = some .white)
    (hplays : PlaysOn r replies last) :
    ∃ s ∈ b.legalMoves .white, ∃ next rest, PlaysOn next rest last ∧
      Stands next player (log ++ [recordOf b .white s]) (b.place .white s) .black := by
  obtain ⟨⟨e, he, hside⟩, hblack, rfl, rfl, hphase⟩ := h
  have hdue : r.phase.turn? = some e.side := by rw [hphase, hturn, hside]
  obtain ⟨c, rest, hc, -, hnext⟩ := hplays.reply he hdue
  obtain ⟨table, hengine⟩ := Engine.choose_engine hc
  have hlegal := Engine.choose_legal hc
  rw [hside] at hnext hlegal
  exact ⟨c.square, hlegal, _, rest, hnext, ⟨c.engine, rfl, by rw [hengine, hside]⟩, hblack, rfl,
    rfl, rfl⟩

theorem rest (h : Stands r player log b due) (hturn : (Phase.settle b due).turn? ≠ some .white)
    (hplays : PlaysOn r replies last) : Stands last player log b due := by
  obtain ⟨e, he, hside⟩ := h.engine
  have hidle : r.phase.turn? ≠ some e.side := by rwa [h.phase, hside]
  rwa [hplays.rest he hidle]

theorem move (h : Stands r player log b due) (hturn : (Phase.settle b due).turn? = some .black)
    (hs : s ∈ b.legalMoves .black) :
    ∃ next replies, PlaysOn next replies (r.move player s.position).state ∧
      Stands next player (log ++ [recordOf b .black s]) (b.place .black s) .white := by
  obtain ⟨hengine, hblack, rfl, rfl, hphase⟩ := h
  have hmover : r.mover player = .ok .black := by
    rw [← hphase] at hturn
    cases hp : r.phase with
    | waiting | finished =>
      rw [hp] at hturn
      cases hturn
    | playing turn passed =>
      rw [hp] at hturn
      cases hturn
      simp [mover, hp, seatOf, hblack]
  obtain ⟨-, replies, hplays⟩ := move_playsOn hmover hs
  exact ⟨_, replies, hplays, hengine, hblack, rfl, rfl, rfl⟩

end Stands
end Room

/-! ## A game -/

/-- Black has to pass and White has two placements. After either of them Black can play in the
middle, and then White has two placements again, of which only one wins. -/
def Board.finale : Board :=
  let e := Cell.empty
  let x := Cell.black
  let o := Cell.white
  ⟨#v[
    o, x, x, x, x, x, x, x,
    x, x, x, x, x, x, x, x,
    x, x, x, x, x, o, x, x,
    x, x, x, x, x, x, x, x,
    x, x, x, x, x, x, x, o,
    x, x, x, e, x, x, x, x,
    x, x, x, x, x, x, x, x,
    e, x, x, e, x, x, x, e]⟩

namespace Board

def answered (b : Board) (s reply : Square) : Board := (b.place .white s).place .black reply

theorem finale_moves :
    finale.hasLegalMove .black = false ∧ finale.hasLegalMove .white = true ∧
      ∀ s ∈ finale.legalMoves .white,
        ⟨5, 3⟩ ∈ (finale.place .white s).legalMoves .black ∧
          (finale.answered s ⟨5, 3⟩).hasLegalMove .white = true := by
  decide +kernel

theorem finale_end :
    ∀ s ∈ finale.legalMoves .white, ∀ s' ∈ (finale.answered s ⟨5, 3⟩).legalMoves .white,
      let b := (finale.answered s ⟨5, 3⟩).place .white s'
      b.hasLegalMove .black = false ∧ b.hasLegalMove .white = true ∧
        ∀ s'' ∈ b.legalMoves .white, (b.place .white s'').isTerminal = true := by
  decide +kernel

theorem finale_keysApart (D : Nat) :
    (Engine.fresh .white D (.ofWords .numbered)).search.KeysApart
      (finale.Expanded .black (2 * finale.empties + 1)) := by
  have hkeys : ((finale.expansions .black (2 * finale.empties + 1)).map
      fun x => (Engine.fresh .white 0 (.ofWords .numbered)).search.key x.1 x.2).Nodup := by
    decide +kernel
  exact Search.keysApart_of_nodup Expanded.mem_expansions hkeys

end Board

namespace Room

/-- A player sits down to the finale and places a disc in the middle. -/
def finale (depth : Int) : Room :=
  (empty 0 .engine .finale depth (.ofWords .numbered)).after
    [.join "ann", .move "ann" ⟨5, 3⟩]

theorem finale_keys (D : Nat) : (Engine.fresh .white D (.ofWords .numbered)).search.KeysApart
    (Foreseen .finale (finale D).log D) :=
  (AtRest.after_empty 0 .engine .finale D (.ofWords .numbered) _).toRefereed.keysApart
    (Board.finale_keysApart D)

theorem finale_log (depth : Int) :
    ∃ s₁ ∈ Board.finale.legalMoves .white,
      let b := Board.finale.answered s₁ ⟨5, 3⟩
      ∃ s₂ ∈ b.legalMoves .white, ∃ s₃ o,
        (finale depth).log = [recordOf .finale .white s₁,
          recordOf (Board.finale.place .white s₁) .black ⟨5, 3⟩,
          recordOf b .white s₂, recordOf (b.place .white s₂) .white s₃] ∧
        (finale depth).phase = .finished o := by
  obtain ⟨hblack, hwhite, hmiddle⟩ := Board.finale_moves
  let start : Room := empty 0 .engine .finale depth (.ofWords .numbered)
  have hrun : finale depth =
      ((start.join "ann").state.move "ann" (Square.position ⟨5, 3⟩)).state := rfl
  rw [hrun]
  -- Black joins and passes, and White chooses.
  obtain ⟨-, _, hplays⟩ := join_playsOn "ann" (r := start) rfl
  have hturn := congrArg Phase.turn? (Phase.settle_of_pass hblack hwhite)
  obtain ⟨s₁, hs₁, _, _, hplays, hstands⟩ := (Stands.begun "ann").reply hturn hplays
  obtain ⟨hmiddle, hwhite⟩ := hmiddle s₁ hs₁
  have hturn := Phase.settle_of_move (Board.hasLegalMove_of_mem hmiddle)
  have hjoined := hstands.rest (by rw [hturn]; decide) hplays
  -- Black plays in the middle, and White chooses again.
  obtain ⟨_, _, hplays, hstands⟩ := hjoined.move (congrArg Phase.turn? hturn) hmiddle
  rw [← Board.answered] at hstands
  have hturn := congrArg Phase.turn? (Phase.settle_of_move hwhite)
  obtain ⟨s₂, hs₂, _, _, hplays, hstands⟩ := hstands.reply hturn hplays
  -- Black passes for good.
  obtain ⟨hblack, hwhite, hover⟩ := Board.finale_end s₁ hs₁ s₂ hs₂
  have hturn := congrArg Phase.turn? (Phase.settle_of_pass hblack hwhite)
  obtain ⟨s₃, hs₃, _, _, hplays, hstands⟩ := hstands.reply hturn hplays
  have hphase := Phase.settle_of_terminal (hover s₃ hs₃) .black
  have hdone := hstands.rest (by simp [hphase, Phase.turn?]) hplays
  exact ⟨s₁, hs₁, s₂, hs₂, s₃, _, hdone.log, hdone.phase.trans hphase⟩

end Room
end Reversi
