import Reversi.Proofs.Room.Acceptance
import Reversi.Proofs.Room.Session

/-!
# Reversi.Proofs.Room.Solo

Rooms of one person and the engine.

* `Room.Chosen`: White's placements in a log are the choices of one engine, one after the other.
* `Room.accepted`: the placements that were asked for and accepted in a run.
* `Room.Attended`: the engine sits at White and all of White's placements are its choices.
* `Room.black_of_serve`: the requests that are accepted are Black's placements.
* `Room.after_hands_back`: after every request it is the person's turn, or nobody's.
-/

namespace Reversi
namespace Room

/-- `Chosen start first log last`: the engine `first` has made White's placements in `log`, each on
the board after the placements before it, and with its choices it has become `last`. -/
inductive Chosen (start : Board) (first : Engine) : List MoveRecord → Engine → Prop where
  | opening : Chosen start first [] first
  | black {log : List MoveRecord} {e : Engine} {m : MoveRecord} : Chosen start first log e →
      m.side = .black → Chosen start first (log ++ [m]) e
  | white {log : List MoveRecord} {e : Engine} {c : Choice} {m : MoveRecord} :
      Chosen start first log e → m.side = .white →
      e.choose (boardAfter start log) none = .ok c → m.square = c.square →
      Chosen start first (log ++ [m]) c.engine

/-- Where the placements of one side were made. -/
def placements (side : Side) (log : List MoveRecord) : List Position :=
  (log.filter (·.side = side)).map fun m => m.square.position

/-- Player and place, if the request is one for a placement and is accepted. -/
def accepts? (r : Room) : Request → Option (String × Position)
  | .move player p =>
    match (r.move player p).answer with
    | .ok () => some (player, p)
    | .error _ => none
  | _ => none

/-- The placements that were asked for and accepted, in order. -/
def accepted : Room → List Request → List (String × Position)
  | _, [] => []
  | r, q :: requests => (r.accepts? q).toList ++ accepted (r.serve q) requests

variable {start : Board} {depth : Int} {setup : Engine.Setup} {r next last : Room}
  {replies : List MoveRecord} {player : String} {side : Side} {s : Square}

theorem placements_append (side : Side) (log log' : List MoveRecord) :
    placements side (log ++ log') = placements side log ++ placements side log' := by
  simp [placements]

/-! ## The engine's turns -/

namespace PlaysOn

theorem empties_eq (h : PlaysOn r replies last) :
    replies.length + last.board.empties = r.board.empties := by
  induction h with
  | rests => simp
  | places _ hc _ ih =>
    have hfill := Board.empties_place_of_legal (Engine.choose_legal hc)
    simp only [played_board] at ih
    rw [List.length_cons]
    omega

theorem length_le (h : PlaysOn r replies last) : replies.length ≤ r.board.empties := by
  have := h.empties_eq
  omega

theorem side_eq (h : PlaysOn r replies last) (hside : ∀ e, r.engine = some e → e.side = side) :
    ∀ m ∈ replies, m.side = side := by
  induction h with
  | rests => simp
  | @places r last e c replies hdue hc _ ih =>
    have he : e.side = side := hside e (turn?_of_engineDue hdue).1
    refine List.forall_mem_cons.2 ⟨he, ih fun e' he' => ?_⟩
    obtain ⟨table, hengine⟩ := Engine.choose_engine hc
    cases he'
    rw [hengine]
    exact he

end PlaysOn

/-! ## Who plays -/

/-- All of White's placements are choices of the engine, which sits at White. -/
structure Attended (start : Board) (depth : Int) (setup : Engine.Setup) (r : Room) : Prop
    extends Hosted start depth setup (fun _ _ => True) (fun _ _ => True) r where
  chosen : ∀ e, r.engine = some e → Chosen start (.fresh .white depth setup) r.log e

namespace Attended

theorem empty (id : Int) (start : Board) (depth : Int) (setup : Engine.Setup) :
    Attended start depth setup (Room.empty id .engine start depth setup) := by
  refine ⟨.empty id trivial, fun e he => ?_⟩
  cases he
  exact .opening

theorem white (h : Attended start depth setup r) {e : Engine} (he : r.engine = some e) :
    e.side = .white := by
  obtain ⟨e', he', hopposing, -⟩ := h.engine
  rw [Option.some.inj (he.symm.trans he')]
  exact hopposing.side

theorem step (h : Attended start depth setup r) (hstep : Step r next) :
    Attended start depth setup next := by
  have hrel : Reliable start depth setup next.log (fun _ _ => True) (fun _ _ => True) :=
    ⟨trivial, fun _ _ => trivial, fun _ _ _ _ => ⟨trivial, trivial⟩⟩
  refine ⟨h.toHosted.step hrel hstep (List.prefix_refl _), fun e' he' => ?_⟩
  cases hstep with
  | sit player hopen =>
    rw [seat_engine] at he'
    rw [seat_log]
    exact h.chosen e' he'
  | start player hopen =>
    simp only [seat_engine] at he'
    simp only [seat_log]
    exact h.chosen e' he'
  | human hmover hs => exact .black (h.chosen e' he') (h.mover_black hmover)
  | @engine e c hdue hc hs =>
    have he := (turn?_of_engineDue hdue).1
    cases he'
    exact .white (h.chosen e he) (h.white he) (by rwa [← h.board]) rfl

theorem serve (h : Attended start depth setup r) (q : Request) :
    Attended start depth setup (r.serve q) :=
  after_invariant h step [q]

theorem after (h : Attended start depth setup r) (requests : List Request) :
    Attended start depth setup (r.after requests) :=
  after_invariant h step requests

theorem openSeats_eq (h : Attended start depth setup r) :
    r.openSeats = if r.black.isSome then [] else [.black] := by
  obtain ⟨e, he, hopposing, -⟩ := h.engine
  cases hblack : r.black <;>
    simp [openSeats, isTaken, Room.player, he, hopposing.side, hblack]

/-! ## Requests -/

theorem move_cases (h : Attended start depth setup r) (player : String) (p : Position) :
    (∃ e, r.move player p = ⟨r, [], .error (.rejected e)⟩) ∨
      (r.black = some player ∧ (r.move player p).answer = .ok () ∧
        ∃ s ∈ r.board.legalMoves .black, s.position = p ∧
          ∃ replies, PlaysOn (r.played .black s) replies (r.move player p).state) := by
  rcases Room.move_cases r player p with
    ⟨e, -, hmove⟩ | ⟨_, -, -, hmove⟩ | ⟨side, s, hmover, hs, rfl, -⟩
  · exact .inl ⟨e, hmove⟩
  · exact .inl ⟨_, hmove⟩
  · obtain rfl := h.mover_black hmover
    obtain ⟨hanswer, hplays⟩ := move_playsOn hmover hs
    exact .inr ⟨player_of_mover hmover, hanswer, s, hs, rfl, hplays⟩

theorem join_cases (h : Attended start depth setup r) (player : String) :
    (r.black ≠ none ∧ r.join player = ⟨r, [], .error (.rejected (.roomFull r.id))⟩) ∨
      (r.black = none ∧ (r.join player).answer = .ok .black ∧
        ∃ replies, PlaysOn (r.begun .black player) replies (r.join player).state) := by
  have hopen := h.openSeats_eq
  cases hblack : r.black with
  | none =>
    rw [hblack] at hopen
    exact .inr ⟨rfl, join_playsOn player hopen⟩
  | some human =>
    rw [hblack] at hopen
    refine .inl ⟨Option.some_ne_none human, ?_⟩
    simp only [join, hopen, Option.isSome_some, if_true]

theorem placements_replies (h : Attended start depth setup r) (hplays : PlaysOn next replies last)
    (hengine : next.engine = r.engine) : placements .black replies = [] := by
  have hwhite := hplays.side_eq fun e he => h.white (hengine ▸ he)
  rw [placements, List.map_eq_nil_iff, List.filter_eq_nil_iff]
  intro m hm
  rw [hwhite m hm]
  decide

theorem black_of_serve (h : Attended start depth setup r) (q : Request) :
    placements .black (r.serve q).log =
      placements .black r.log ++ (r.accepts? q).toList.map Prod.snd := by
  cases q with
  | look => simp [Room.serve, accepts?]
  | join player =>
    have hnone : r.accepts? (.join player) = none := rfl
    rw [Room.serve, hnone, Option.toList_none, List.map_nil, List.append_nil]
    rcases h.join_cases player with ⟨-, hjoin⟩ | ⟨-, -, replies, hplays⟩
    · rw [hjoin]
    · have hwhite := h.placements_replies hplays (seat_engine r .black player)
      rw [hplays.log_eq, placements_append, hwhite, List.append_nil, begun, seat_log]
  | move player p =>
    rw [Room.serve]
    rcases h.move_cases player p with ⟨e, hmove⟩ | ⟨-, hanswer, s, -, rfl, replies, hplays⟩
    · simp [accepts?, hmove]
    · have hwhite := h.placements_replies hplays rfl
      rw [hplays.log_eq, placements_append, hwhite, List.append_nil, played_log,
        placements_append]
      simp [accepts?, hanswer, placements, recordOf]

theorem black_of_after (h : Attended start depth setup r) (requests : List Request) :
    placements .black (r.after requests).log =
      placements .black r.log ++ (accepted r requests).map Prod.snd := by
  induction requests generalizing r with
  | nil => simp [Room.after, accepted]
  | cons q requests ih =>
    have hrest := ih (h.serve q)
    rw [h.black_of_serve] at hrest
    rw [accepted, List.map_append, ← List.append_assoc]
    exact hrest

/-- Black is who has asked for a seat first. -/
theorem human_of_serve (h : Attended start depth setup r) (q : Request) :
    (r.serve q).black = r.black.or (joiners [q]).head? := by
  cases q with
  | look => simp [Room.serve, joiners]
  | join player =>
    rw [Room.serve]
    rcases h.join_cases player with ⟨htaken, hjoin⟩ | ⟨hfree, -, replies, hplays⟩
    · obtain ⟨human, hblack⟩ := Option.ne_none_iff_exists'.1 htaken
      rw [hjoin, hblack, Option.some_or]
    · rw [hplays.sameSeats.black, hfree]
      rfl
  | move player p =>
    rw [Room.serve]
    rcases h.move_cases player p with ⟨e, hmove⟩ | ⟨-, -, s, -, -, replies, hplays⟩
    · rw [hmove]
      simp [joiners]
    · rw [hplays.sameSeats.black]
      simp [joiners, Room.played]

theorem human_of_after (h : Attended start depth setup r) (requests : List Request) :
    (r.after requests).black = r.black.or (joiners requests).head? := by
  induction requests generalizing r with
  | nil => simp [Room.after, joiners]
  | cons q requests ih =>
    have hrest := ih (h.serve q)
    rw [h.human_of_serve] at hrest
    rw [joiners_cons, List.head?_append, ← Option.or_assoc]
    exact hrest

theorem human_of_accepted (h : Attended start depth setup r) {requests : List Request}
    {x : String × Position} (hx : x ∈ accepted r requests) :
    (r.after requests).black = some x.1 := by
  induction requests generalizing r with
  | nil => cases hx
  | cons q requests ih =>
    rw [accepted, List.mem_append] at hx
    rcases hx with hx | hx
    · have hblack : r.black = some x.1 := by
        cases q with
        | join | look => cases hx
        | move player p =>
          rcases h.move_cases player p with ⟨e, hmove⟩ | ⟨hblack, hanswer, -⟩
          · simp [accepts?, hmove] at hx
          · simp only [accepts?, hanswer, Option.toList_some, List.mem_singleton] at hx
            rw [hx, hblack]
      rw [h.human_of_after, hblack, Option.some_or]
    · exact ih (h.serve q) hx

end Attended

/-- In a room with the engine, after any requests, players are waited for, or the game is over, or
it is Black's turn. White's placements are what the engine has chosen, one after the other, on the
boards that they were made on. Black's are the requests for placements that were accepted, all from
the first person who has asked for a seat. So a request places no disc for White: it is refused, and
nothing changes, or it places a disc for Black, and then the engine, if it is due, replies with no
more placements than there are free squares; and a seat is refused or given without a fault, too. -/
theorem after_hands_back (id : Int) (start : Board) (depth : Int) (setup : Engine.Setup)
    (requests : List Request) :
    let first := empty id .engine start depth setup
    let r := first.after requests
    let v := r.snapshot
    (v.status = .waiting ∨ (∃ o, v.status = .finished o) ∨
        (v.status = .active ∧ v.turn = some .black)) ∧
      (∃ e, r.engine = some e ∧ Chosen start (.fresh .white depth setup) r.log e) ∧
      placements .black r.log = (accepted first requests).map Prod.snd ∧
      (∀ x ∈ accepted first requests, (joiners requests).head? = some x.1) ∧
      (∀ player p, (∃ e, r.move player p = ⟨r, [], .error (.rejected e)⟩) ∨
        ((r.move player p).answer = .ok () ∧ ∃ s ∈ r.board.legalMoves .black, s.position = p ∧
          ∃ replies, PlaysOn (r.played .black s) replies (r.move player p).state ∧
            replies.length ≤ (r.played .black s).board.empties)) ∧
      ∀ player, (∃ e, r.join player = ⟨r, [], .error (.rejected e)⟩) ∨
        ((r.join player).answer = .ok .black ∧
          ∃ replies, PlaysOn (r.begun .black player) replies (r.join player).state ∧
            replies.length ≤ (r.begun .black player).board.empties) := by
  intro first r v
  have hfirst : Attended start depth setup first := .empty id start depth setup
  have h : Attended start depth setup r := hfirst.after requests
  have hrest : AtRest start r := .after_empty id .engine start depth setup requests
  obtain ⟨e, he, -⟩ := h.engine
  refine ⟨?_, ⟨e, he, h.chosen e he⟩, ?_, fun x hx => ?_, fun player p => ?_, fun player => ?_⟩
  · cases hphase : r.phase with
    | waiting => exact .inl (congrArg Phase.status hphase)
    | finished o => exact .inr (.inl ⟨o, congrArg Phase.status hphase⟩)
    | playing turn passed =>
      have hturn : r.phase.turn? = some turn := congrArg Phase.turn? hphase
      refine .inr (.inr ⟨congrArg Phase.status hphase, hturn.trans ?_⟩)
      cases turn with
      | black => rfl
      | white =>
        have hidle := Option.filter_eq_none_iff.1 hrest.idle e he
        rw [hturn, h.white he] at hidle
        exact absurd (beq_self_eq_true _) hidle
  · rw [hfirst.black_of_after]
    rfl
  · rw [← hfirst.human_of_accepted hx, hfirst.human_of_after]
    rfl
  · rcases h.move_cases player p with hmove | ⟨-, hanswer, s, hs, hp, replies, hplays⟩
    · exact .inl hmove
    · exact .inr ⟨hanswer, s, hs, hp, replies, hplays, hplays.length_le⟩
  · rcases h.join_cases player with ⟨-, hjoin⟩ | ⟨-, hanswer, replies, hplays⟩
    · exact .inl ⟨_, hjoin⟩
    · exact .inr ⟨hanswer, replies, hplays, hplays.length_le⟩

end Room
end Reversi
