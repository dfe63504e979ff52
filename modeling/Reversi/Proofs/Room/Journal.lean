import Reversi.Proofs.Room.Seats

/-!
# Reversi.Proofs.Room.Journal

What a room writes into the journal, against what has happened in it.

* `Event.ofRoom`: the events that a room records itself. Choices are recorded by the engine.
* `Room.journal`: what is written during a run; `Room.admitted`: the seats given out in it.
* `Room.story`: what the room and these seats have to tell.
* `Room.trace`: the placements, and the end of the game if it came with one of them.
* `Room.engineTurns_trace`: the engine's turns write what they add to the trace.
* `Room.serve_recorded`, `Room.after_recorded`: so does every request, and every run.
* `Room.Refereed.unplayed`: what is not in the trace.
* `Room.after_journal`: the journal tells the story, but for a game that nobody can open.
-/

namespace Reversi

def Event.ofRoom : Event → Bool
  | seated _ _ | started _ _ | played _ _ _ _ | finished _ _ _ => true
  | created _ _ | chosen _ _ _ | rejected _ _ => false

def Event.line (e : Event) : Level × Event := (e.level, e)

theorem Event.line_injective : Function.Injective Event.line := fun _ _ h => congrArg Prod.snd h

/-! ## The first board -/

theorem Board.Due.turn_eq_none_iff {b : Board} {due : Side} {turn passed : Option Side}
    (h : b.Due due turn passed) : turn = none ↔ b.isTerminal = true := by
  rw [Board.isTerminal_iff]
  constructor
  · rintro rfl
    cases h with
    | ended hdue hother =>
      intro side
      rw [Board.hasLegalMove_eq_false_iff]
      rcases due.eq_or_eq_opponent side with rfl | rfl
      · exact hdue
      · exact hother
  · intro hover
    cases turn with
    | none => rfl
    | some side => simpa [hover side] using h.can_move

theorem Referee.opening_of_nil {start b : Board} {log : List MoveRecord} {turn passed : Option Side}
    (h : Referee start log b turn passed) (hlog : log = []) :
    b = start ∧ start.Due .black turn passed := by
  cases h with
  | opening hdue => exact ⟨rfl, hdue⟩
  | placement => simp at hlog

theorem Referee.of_isTerminal {start b : Board} {log : List MoveRecord} {turn passed : Option Side}
    (h : Referee start log b turn passed) (hover : start.isTerminal = true) :
    log = [] ∧ b = start ∧ turn = none := by
  induction h with
  | opening hdue => exact ⟨rfl, rfl, hdue.turn_eq_none_iff.2 hover⟩
  | placement _ _ _ _ ih => cases ih.2.2

namespace Room

/-- The events of a request. Nothing is recorded when somebody looks. -/
def told (r : Room) : Request → List Event
  | .join player => (r.join player).events
  | .move player p => (r.move player p).events
  | .look => []

/-- What the room records itself of a request. -/
def written (r : Room) (q : Request) : List Event := (r.told q).filter Event.ofRoom

def journal : Room → List Request → List (Level × Event)
  | _, [] => []
  | r, q :: requests => (r.written q).map Event.line ++ journal (r.serve q) requests

/-- The seat, if the request is one for a seat and is accepted. -/
def admits? (r : Room) : Request → Option Side
  | .join player => (r.join player).answer.toOption
  | _ => none

/-- The seats that were given out, in order. -/
def admitted : Room → List Request → List Side
  | _, [] => []
  | r, q :: requests => (r.admits? q).toList ++ admitted (r.serve q) requests

/-- The end of the game, if it has come. -/
def ending (r : Room) : List Event :=
  match r.phase with
  | .finished o => [.finished r.id o r.board.score]
  | _ => []

/-- What there is to tell of a room whose seats were given out in this order: the seats, the
beginning of the game when no seat is left, the placements and the end of the game. -/
def story (r : Room) (seats : List Side) : List (Level × Event) :=
  seats.map (fun side => (.info, .seated r.id side)) ++
    (if r.openSeats = [] then [(.info, .started r.id r.mode)] else []) ++
    r.log.map (fun m => (.debug, .played r.id m.side m.square m.flipped)) ++
    match r.phase with
    | .finished o => [(.info, .finished r.id o r.board.score)]
    | _ => []

variable {start : Board} {r next last : Room} {replies : List MoveRecord} {side : Side} {s : Square}

/-! ## Placements -/

def entry (id : Int) (m : MoveRecord) : Event := .played id m.side m.square m.flipped

/-- The placements, and the end of the game if it came with one of them: the end is recorded with
the placement that brings it about, and when the last seat is given out it is not looked for. -/
def trace (r : Room) : List Event :=
  r.log.map (entry r.id) ++ if r.log = [] then [] else r.ending

theorem record_events (hs : s ∈ r.board.legalMoves side) :
    r.record side s.position = .ok (r.played side s,
      entry r.id (recordOf r.board side s) :: (r.played side s).ending) := by
  rw [record, Board.move_position hs]
  rfl

theorem ending_of_turn? (h : r.phase.turn? = some side) : r.ending = [] := by
  cases hphase : r.phase with
  | playing => simp only [ending, hphase]
  | waiting | finished =>
    rw [hphase] at h
    cases h

theorem ofRoom_ending : ∀ e ∈ r.ending, e.ofRoom = true := by
  unfold ending
  split
  · simp [Event.ofRoom]
  · simp

theorem trace_played (h : r.phase.turn? = some side) (s : Square) :
    (r.played side s).trace =
      r.trace ++ entry r.id (recordOf r.board side s) :: (r.played side s).ending := by
  simp only [trace, played_log, List.map_append, ending_of_turn? h]
  simp [played]

theorem record_trace {p : Position} {events : List Event} (h : r.phase.turn? = some side)
    (hrecord : r.record side p = .ok (next, events)) :
    next.trace = r.trace ++ events.filter Event.ofRoom := by
  obtain ⟨s, hs, rfl, rfl⟩ := record_eq_ok hrecord
  rw [record_events hs] at hrecord
  cases hrecord
  have hown : (entry r.id (recordOf r.board side s) :: (r.played side s).ending).filter
      Event.ofRoom = entry r.id (recordOf r.board side s) :: (r.played side s).ending :=
    List.filter_eq_self.2 (List.forall_mem_cons.2 ⟨rfl, ofRoom_ending⟩)
  rw [hown, trace_played h]

theorem filter_choice_events (c : Choice) : c.events.filter Event.ofRoom = [] := by
  unfold Choice.events
  split <;> rfl

theorem engineTurns_trace (n : Nat) (r : Room) :
    (r.engineTurns n).state.trace =
      r.trace ++ (r.engineTurns n).events.filter Event.ofRoom := by
  induction n generalizing r with
  | zero =>
    rw [engineTurns]
    split <;> simp
  | succ n ih =>
    rw [engineTurns]
    split
    · simp
    · rename_i e hdue
      simp only
      split
      · simp
      · rename_i c hc
        split
        · simp [filter_choice_events]
        · rename_i next events hrecord
          have hturn := (turn?_of_engineDue hdue).2
          -- what the engine has learnt by its choice is not in the trace
          have hnext := record_trace (r := { r with engine := some c.engine }) hturn hrecord
          simp only [ih, hnext, List.filter_append, filter_choice_events, List.nil_append,
            List.append_assoc]
          rfl

/-! ## Requests -/

theorem PlaysOn.ne_waiting (h : PlaysOn r replies last) (hr : r.phase ≠ .waiting) :
    last.phase ≠ .waiting := by
  induction h with
  | rests => exact hr
  | places _ _ _ ih => exact ih (Phase.settle_ne_waiting _ _)

/-- What comes before the placements. -/
def opening (r : Room) (seats : List Side) : List Event :=
  seats.map (.seated r.id) ++ if r.phase = .waiting then [] else [.started r.id r.mode]

def recorded (r : Room) (seats : List Side) : List Event := r.opening seats ++ r.trace

theorem recorded_of_waiting (hphase : r.phase = .waiting) (hlog : r.log = []) (seats : List Side) :
    r.recorded seats = seats.map (.seated r.id) := by
  simp [recorded, opening, trace, hphase, hlog]

theorem recorded_of_begun (hphase : r.phase ≠ .waiting) (seats : List Side) :
    r.recorded seats = seats.map (.seated r.id) ++ .started r.id r.mode :: r.trace := by
  simp [recorded, opening, hphase]

theorem join_last_events (player : String) (h : r.openSeats = [side]) :
    (r.join player).events = .seated r.id side :: .started r.id r.mode ::
      ((r.begun side player).engineTurns r.board.empties).events := by
  simp only [join, h, Room.start, playEngine, seat_board, seat_id, begun, Room.mode, seat_engine]

theorem join_recorded (h : Refereed start r) (player : String) (seats : List Side) :
    (r.join player).state.recorded (seats ++ (r.admits? (.join player)).toList) =
      r.recorded seats ++ r.written (.join player) := by
  have hforward : Forward r (r.join player).state := h.forward_after [.join player]
  match hseats : r.openSeats with
  | [] => simp [written, told, admits?, join, hseats, Except.toOption]
  | [side] =>
    have hwait : r.phase = .waiting := h.seats (by simp [hseats])
    have hlog := (h.waiting hwait).1
    obtain ⟨hanswer, replies, hplays⟩ := join_playsOn player hseats
    have hbegun : (r.join player).state.phase ≠ .waiting :=
      hplays.ne_waiting (Phase.settle_ne_waiting _ _)
    -- empty even if the game is over now
    have hempty : (r.begun side player).trace = [] := by simp [trace, begun, hlog]
    have hstate : (r.join player).state =
        ((r.begun side player).engineTurns r.board.empties).state := join_last player hseats
    have htrace : (r.join player).state.trace =
        ((r.begun side player).engineTurns r.board.empties).events.filter Event.ofRoom := by
      rw [hstate, engineTurns_trace, hempty, List.nil_append]
    rw [recorded_of_begun hbegun, recorded_of_waiting hwait hlog, hforward.id, hforward.mode, htrace]
    simp only [written, told, admits?, hanswer, join_last_events player hseats, List.map_append,
      List.append_assoc]
    rfl
  | side :: other :: rest =>
    have hwait : r.phase = .waiting := h.seats (by simp [hseats])
    have hlog := (h.waiting hwait).1
    have hjoin : r.join player = ⟨r.seat side player, [.seated r.id side], .ok side⟩ := by
      simp only [join, hseats]
    simp only [written, told, admits?, hjoin]
    rw [recorded_of_waiting (by simpa) (by simpa), recorded_of_waiting hwait hlog, seat_id,
      List.map_append]
    rfl

theorem move_trace (r : Room) (player : String) (p : Position) :
    (r.move player p).state.trace = r.trace ++ r.written (.move player p) := by
  rcases r.move_cases player p with
    ⟨e, -, hmove⟩ | ⟨_, -, -, hmove⟩ | ⟨side, s, hmover, hs, rfl, -⟩
  · simp [written, told, hmove]
  · simp [written, told, hmove]
  · have hplaced := record_trace (turn?_of_mover hmover) (record_events hs)
    simp only [written, told, move, hmover, record_events hs, playEngine, engineTurns_trace,
      hplaced, List.filter_append, List.append_assoc]

theorem move_recorded (h : Refereed start r) (player : String) (p : Position) (seats : List Side) :
    (r.move player p).state.recorded seats = r.recorded seats ++ r.written (.move player p) := by
  have hforward : Forward r (r.move player p).state := h.forward_after [.move player p]
  rcases r.move_cases player p with
    ⟨e, -, hmove⟩ | ⟨_, -, -, hmove⟩ | ⟨side, s, hmover, hs, rfl, -⟩
  · simp [written, told, hmove]
  · simp [written, told, hmove]
  · obtain ⟨-, replies, hplays⟩ := move_playsOn hmover hs
    have hnext : (r.move player s.position).state.phase ≠ .waiting :=
      hplays.ne_waiting (Phase.settle_ne_waiting _ _)
    have hbegun : r.phase ≠ .waiting := Phase.ne_waiting (turn?_of_mover hmover)
    rw [recorded_of_begun hnext, recorded_of_begun hbegun, hforward.id, hforward.mode, move_trace,
      List.append_assoc, List.cons_append]

theorem serve_recorded (h : Refereed start r) (q : Request) (seats : List Side) :
    (r.serve q).recorded (seats ++ (r.admits? q).toList) = r.recorded seats ++ r.written q := by
  cases q with
  | join player => exact join_recorded h player seats
  | move player p =>
    have hnone : r.admits? (.move player p) = none := rfl
    rw [hnone, Option.toList_none, List.append_nil]
    exact move_recorded h player p seats
  | look => simp [Room.serve, admits?, written, told]

theorem after_recorded (h : AtRest start r) (requests : List Request) (seats : List Side) :
    ((r.after requests).recorded (seats ++ r.admitted requests)).map Event.line =
      (r.recorded seats).map Event.line ++ r.journal requests := by
  induction requests generalizing r seats with
  | nil => simp [Room.after, admitted, journal]
  | cons q requests ih =>
    have hrest := ih (h.serve q) (seats ++ (r.admits? q).toList)
    rw [serve_recorded h.toRefereed, List.map_append, List.append_assoc, List.append_assoc] at hrest
    exact hrest

theorem started_not_mem_trace (r : Room) (id : Int) (mode : Mode) : .started id mode ∉ r.trace := by
  have hplaced : .started id mode ∉ r.log.map (entry r.id) := by simp [entry]
  have hended : .started id mode ∉ r.ending := by
    unfold ending
    split <;> simp
  rw [trace, List.mem_append]
  rintro (hmem | hmem)
  · exact hplaced hmem
  · split at hmem
    · cases hmem
    · exact hended hmem

/-- The beginning of the game is recorded with the request for the last seat. -/
theorem started_mem_written_iff (r : Room) (q : Request) :
    .started r.id r.mode ∈ r.written q ↔
      ∃ player side, q = .join player ∧ r.openSeats = [side] := by
  cases q with
  | join player =>
    match hseats : r.openSeats with
    | [] => simp [written, told, join, hseats]
    | [side] =>
      refine iff_of_true ?_ ⟨player, side, rfl, rfl⟩
      rw [written, told, join_last_events player hseats]
      exact List.mem_filter.2 ⟨by simp, rfl⟩
    | side :: other :: rest => simp [written, told, join, hseats]
  | move player p =>
    refine iff_of_false (fun hmem => ?_) (by simp)
    have htrace : .started r.id r.mode ∈ (r.move player p).state.trace := by
      rw [move_trace]
      exact List.mem_append_right _ hmem
    exact started_not_mem_trace _ _ _ htrace
  | look => simp [written, told]

/-- Refused requests leave no record, neither of the room nor of the engine. -/
theorem told_of_join_error (h : Refereed start r) {player : String} {e : Refusal}
    (he : (r.join player).answer = .error e) : r.told (.join player) = [] := by
  rcases join_cases h player with ⟨-, hjoin⟩ | ⟨_, _, -, hanswer, -⟩
  · rw [told, hjoin]
  · rw [hanswer] at he
    cases he

theorem told_of_move_error {player : String} {p : Position} {e : Refusal}
    (he : (r.move player p).answer = .error e) : r.told (.move player p) = [] := by
  rcases r.move_cases player p with
    ⟨_, -, hmove⟩ | ⟨_, -, -, hmove⟩ | ⟨_, _, -, -, -, hanswer, -⟩
  · rw [told, hmove]
  · rw [told, hmove]
  · rw [hanswer] at he
    cases he

/-- The end of a game that nobody can open is not in the trace. -/
theorem Refereed.unplayed (h : Refereed start r) :
    (if r.log = [] then r.ending else []) =
      if start.isTerminal = true ∧ r.phase ≠ .waiting then
        [.finished r.id start.outcome start.score] else [] := by
  by_cases hwait : r.phase = .waiting
  · simp [ending, hwait]
  have hreplay := h.replay hwait
  by_cases hover : start.isTerminal = true
  · obtain ⟨hlog, hboard, hturn⟩ := hreplay.of_isTerminal hover
    rw [if_pos hlog, if_pos ⟨hover, hwait⟩]
    cases hphase : r.phase with
    | waiting => exact absurd hphase hwait
    | playing =>
      rw [hphase] at hturn
      cases hturn
    | finished o =>
      have hfits := h.outcome o hphase
      rw [hboard] at hfits
      simp only [ending, hphase, hboard, Board.outcome_eq_iff.2 hfits]
  · have hopen : ¬ (start.isTerminal = true ∧ r.phase ≠ .waiting) := fun hboth => hover hboth.1
    rw [if_neg hopen, ite_eq_right_iff]
    intro hlog
    have hdue := (hreplay.opening_of_nil hlog).2
    obtain ⟨side, hside⟩ := Option.ne_none_iff_exists'.1 (mt hdue.turn_eq_none_iff.1 hover)
    exact ending_of_turn? hside

/-! ## The story -/

theorem Housed.phase_waiting_iff (hhoused : Housed r) (h : Refereed start r) :
    r.phase = .waiting ↔ r.openSeats ≠ [] :=
  ⟨hhoused.awaits, h.seats⟩

theorem story_lines (h : Refereed start r) (hhoused : Housed r) (seats : List Side) :
    r.story seats =
      (r.opening seats ++ (r.log.map (entry r.id) ++ r.ending)).map Event.line := by
  have hbegun : (if r.openSeats = [] then [(Level.info, Event.started r.id r.mode)] else []) =
      (if r.phase = .waiting then [] else [Event.started r.id r.mode]).map Event.line := by
    by_cases hopen : r.openSeats = []
    · rw [if_pos hopen, if_neg fun hwait => (hhoused.phase_waiting_iff h).1 hwait hopen]
      rfl
    · rw [if_neg hopen, if_pos ((hhoused.phase_waiting_iff h).2 hopen)]
      rfl
  have hending : r.ending.map Event.line = match r.phase with
      | .finished o => [(.info, .finished r.id o r.board.score)]
      | _ => [] := by
    unfold ending
    split <;> rfl
  simp only [List.map_append, List.map_map, opening, ← hbegun, hending, ← List.append_assoc]
  rfl

theorem story_eq (h : Refereed start r) (hhoused : Housed r) (seats : List Side) :
    r.story seats = (r.recorded seats).map Event.line ++
      if start.isTerminal = true ∧ r.openSeats = [] then
        [(.info, .finished r.id start.outcome start.score)] else [] := by
  have htrace : r.log.map (entry r.id) ++ r.ending =
      r.trace ++ if r.log = [] then r.ending else [] := by
    unfold trace
    split <;> simp
  have hbegun : r.phase ≠ .waiting ↔ r.openSeats = [] := by
    rw [Ne, hhoused.phase_waiting_iff h, not_not]
  rw [story_lines h hhoused, htrace, h.unplayed, recorded, ← List.append_assoc, List.map_append]
  simp only [hbegun]
  congr 1
  split <;> rfl

/-- After any requests the journal has, in this order, a record for each seat that was given out,
one for the beginning of the game if no seat is left, one for each placement in the log, and one for
the end of the game if it is over, each with the seats, squares and numbers that the room itself has
to tell of. Only the end of a game that nobody can open is missing: with nobody to move on the first
board it is over when the last seat is given out, and no placement has brought that about. The
beginning is recorded with the request for the last seat. Refused requests leave no record, and
those who only look do not either. -/
theorem after_journal (id : Int) (mode : Mode) (start : Board) (depth : Int)
    (setup : Engine.Setup) (requests : List Request) :
    let first := empty id mode start depth setup
    let r := first.after requests
    let seats := first.admitted requests
    r.story seats = first.journal requests ++
        (if start.isTerminal = true ∧ r.openSeats = [] then
          [(.info, .finished id start.outcome start.score)] else []) ∧
      (first.journal requests = r.story seats ↔
        ¬ (start.isTerminal = true ∧ r.openSeats = [])) ∧
      (∀ q, (.info, .started id mode) ∈ r.journal [q] ↔
        ∃ player side, q = .join player ∧ r.openSeats = [side]) ∧
      (∀ player e, (r.join player).answer = .error e → r.told (.join player) = []) ∧
      (∀ player p e, (r.move player p).answer = .error e → r.told (.move player p) = []) ∧
      r.told .look = [] := by
  intro first r seats
  have hfirst : AtRest start first := .empty id mode start depth setup
  have h : Refereed start r := (hfirst.after requests).toRefereed
  have hhoused : Housed r := after_invariant (.empty id mode start depth setup) Housed.step requests
  have hforward : Forward first r := hfirst.forward_after requests
  have hid : r.id = id := hforward.id
  have hmode : r.mode = mode := by
    rw [hforward.mode]
    cases mode <;> rfl
  have hjournal : (r.recorded seats).map Event.line = first.journal requests := by
    have hnone : first.recorded [] = [] := recorded_of_waiting rfl rfl []
    have hrun := after_recorded hfirst requests []
    rwa [hnone] at hrun
  have hstory := story_eq h hhoused seats
  rw [hjournal, hid] at hstory
  refine ⟨hstory, ?_, fun q => ?_, fun player e => told_of_join_error h,
    fun player p e => told_of_move_error, rfl⟩
  · rw [hstory, List.self_eq_append_right]
    split
    · rename_i hunopened
      exact iff_of_false (List.cons_ne_nil _ _) (not_not_intro hunopened)
    · rename_i hopened
      exact iff_of_true rfl hopened
  · have hline : (Level.info, Event.started id mode) = (Event.started id mode).line := rfl
    rw [← started_mem_written_iff, hid, hmode, journal, journal, List.append_nil, hline,
      List.mem_map_of_injective Event.line_injective]

/-- No square of the board is free. -/
def crowded : Board := ⟨Vector.replicate 64 .black⟩

/-- The game is over as soon as both players are seated, and its end is not recorded. -/
theorem crowded_journal :
    let first := empty 1 .people crowded 3
    let r := first.after [.join "ann", .join "bob"]
    r.snapshot.status = .finished (.won .black) ∧
      first.admitted [.join "ann", .join "bob"] = [.black, .white] ∧
      first.journal [.join "ann", .join "bob"] =
        [(.info, .seated 1 .black), (.info, .seated 1 .white), (.info, .started 1 .people)] ∧
      r.story [.black, .white] = [(.info, .seated 1 .black), (.info, .seated 1 .white),
        (.info, .started 1 .people), (.info, .finished 1 (.won .black) ⟨64, 0⟩)] := by
  decide +kernel

end Room
end Reversi
