import Reversi.Proofs.Room.Acceptance
import Reversi.Proofs.Room.Forward

/-!
# Reversi.Proofs.Room.Seats

The seats of a room are given out in order, each of them once.

* `Mode.seats`, `Mode.engineSeat?`: the seats for people, in order, and the seat of the engine.
* `Room.Given`: those who have asked first hold the seats for people.
* `Room.Given.openSeats_eq`: the open seats are those that nobody has asked for yet.
* `Room.Housed`: seats are open as long as players are waited for, and the engine has White.
* `Room.after_gives_seats`: who gets which seat, and when the game begins, after any requests.
-/

namespace Reversi

/-- In the order in which they are given out. -/
def Mode.seats : Mode → List Side
  | people => [.black, .white]
  | engine => [.black]

def Mode.engineSeat? : Mode → Option Side
  | people => none
  | engine => some .white

theorem Phase.status_eq_waiting_iff {phase : Phase} :
    phase.status = .waiting ↔ phase = .waiting := by
  cases phase <;> simp [Phase.status]

namespace Room

variable {mode : Mode} {names : List String} {start : Board} {r next : Room} {side : Side}

/-- The names of those who have asked for a seat, in order, stand on the seats for people. -/
structure Given (mode : Mode) (names : List String) (r : Room) : Prop where
  player : ∀ side, r.player side = (mode.seats.zip names).lookup side
  engine : r.engine.map Engine.side = mode.engineSeat?

theorem Given.empty (id : Int) (mode : Mode) (start : Board) (depth : Int)
    (setup : Engine.Setup) : Given mode [] (empty id mode start depth setup) := by
  refine ⟨fun side => ?_, ?_⟩
  · rw [List.zip_nil_right]
    cases side <;> rfl
  · cases mode <;> rfl

theorem isTaken_iff : r.isTaken side = true ↔
    (∃ player, r.player side = some player) ∨ r.engine.map Engine.side = some side := by
  rw [isTaken, Bool.or_eq_true, Option.isSome_iff_exists]
  refine or_congr_right ?_
  cases r.engine <;> simp

theorem SameSeats.engine_side (h : SameSeats r next) :
    next.engine.map Engine.side = r.engine.map Engine.side := by
  obtain ⟨table, hengine⟩ := h.engine
  rw [hengine, Option.map_map]
  rfl

theorem Given.openSeats_eq (h : Given mode names r) :
    r.openSeats = mode.seats.drop names.length := by
  have htaken : ∀ side, r.isTaken side =
      (((mode.seats.zip names).lookup side).isSome || mode.engineSeat? == some side) := by
    intro side
    rw [Bool.eq_iff_iff, isTaken_iff, h.player, h.engine, Bool.or_eq_true,
      Option.isSome_iff_exists, beq_iff_eq]
  simp only [openSeats, htaken]
  cases mode with
  | people =>
    rcases names with _ | ⟨first, _ | ⟨second, names⟩⟩
    · rfl
    · rfl
    · exact (List.drop_of_length_le (by simp [Mode.seats])).symm
  | engine =>
    rcases names with _ | ⟨first, names⟩
    · rfl
    · exact (List.drop_of_length_le (by simp [Mode.seats])).symm

theorem mem_takenSeats : side ∈ r.takenSeats ↔ r.isTaken side = true := by
  cases side <;> simp [takenSeats]

theorem lookup_seats_concat (mode : Mode) (names : List String) (player : String) (side : Side) :
    (mode.seats.zip (names ++ [player])).lookup side =
      if mode.seats[names.length]? = some side then some player
      else (mode.seats.zip names).lookup side := by
  cases mode with
  | people => rcases names with _ | ⟨first, _ | ⟨second, names⟩⟩ <;> cases side <;> rfl
  | engine => rcases names with _ | ⟨first, names⟩ <;> cases side <;> rfl

theorem Given.serve (h : Given mode names r) (hrest : Refereed start r) (q : Request) :
    Given mode (names ++ joiners [q]) (r.serve q) := by
  cases q with
  | join player =>
    have hjoiner : joiners [.join player] = [player] := rfl
    rw [Room.serve, hjoiner]
    rcases join_cases hrest player with ⟨hnone, hjoin⟩ | ⟨first, rest, hopen, -, -, hsame⟩
    · rw [hjoin]
      refine ⟨fun side => ?_, h.engine⟩
      rw [h.openSeats_eq, List.drop_eq_nil_iff] at hnone
      rw [lookup_seats_concat, List.getElem?_eq_none hnone, if_neg (by simp), h.player]
    · rw [h.openSeats_eq] at hopen
      have hfirst : mode.seats[names.length]? = some first := by
        rw [← List.head?_drop, hopen, List.head?_cons]
      refine ⟨fun side => ?_, ?_⟩
      · rw [hsame.player_eq, player_seat, lookup_seats_concat, hfirst, h.player]
        simp [eq_comm]
      · rw [hsame.engine_side, seat_engine, h.engine]
  | move player p =>
    have hsame := r.move_sameSeats player p
    refine ⟨fun side => ?_, ?_⟩
    · rw [Room.serve, hsame.player_eq, h.player]
      simp [joiners]
    · rw [Room.serve, hsame.engine_side, h.engine]
  | look =>
    rw [Room.serve]
    simpa [joiners] using h

theorem Given.after (h : Given mode names r) (hrest : AtRest start r) (requests : List Request) :
    Given mode (names ++ joiners requests) (r.after requests) := by
  induction requests generalizing names r with
  | nil => simpa [Room.after, joiners] using h
  | cons q requests ih =>
    rw [joiners_cons, ← List.append_assoc]
    exact ih (h.serve hrest.toRefereed q) (hrest.serve q)

/-! ## The beginning of the game -/

/-- Seats are open as long as players are waited for, and the engine has White. -/
structure Housed (r : Room) : Prop where
  awaits : r.phase = .waiting → r.openSeats ≠ []
  white : ∀ e, r.engine = some e → e.side = .white

theorem Housed.empty (id : Int) (mode : Mode) (start : Board) (depth : Int)
    (setup : Engine.Setup) : Housed (empty id mode start depth setup) := by
  refine ⟨fun _ => ?_, fun e he => ?_⟩
  · cases mode <;> exact List.cons_ne_nil _ _
  · cases mode with
    | people => cases he
    | engine =>
      cases he
      rfl

theorem Housed.step (h : Housed r) (hstep : Step r next) : Housed next := by
  cases hstep with
  | @sit side other rest player hopen =>
    refine ⟨fun _ hnone => ?_, fun e he => h.white e (by rwa [seat_engine] at he)⟩
    have hother : other ∈ (r.seat side player).openSeats := by
      have hmem : other ∈ r.openSeats := by simp [hopen]
      rw [mem_openSeats, Bool.eq_false_iff] at hmem ⊢
      rw [Ne, isTaken_seat, not_or]
      refine ⟨fun heq => ?_, hmem⟩
      have hnodup : r.openSeats.Nodup := List.Nodup.filter _ (by decide)
      rw [hopen, heq] at hnodup
      simp at hnodup
    rw [hnone] at hother
    cases hother
  | start player hopen =>
    exact ⟨fun hw => absurd hw (Phase.settle_ne_waiting _ _),
      fun e he => h.white e (by rwa [seat_engine] at he)⟩
  | human => exact ⟨fun hw => absurd hw (Phase.settle_ne_waiting _ _), h.white⟩
  | @engine e c hdue hc =>
    refine ⟨fun hw => absurd hw (Phase.settle_ne_waiting _ _), fun e' he' => ?_⟩
    obtain ⟨table, hengine⟩ := Engine.choose_engine hc
    cases he'
    rw [hengine]
    exact h.white e (turn?_of_engineDue hdue).1

theorem waiting_iff_asked (id : Int) (mode : Mode) (start : Board) (depth : Int)
    (setup : Engine.Setup) (requests : List Request) :
    ((empty id mode start depth setup).after requests).phase = .waiting ↔
      (joiners requests).length < mode.seats.length := by
  have hrest : AtRest start ((empty id mode start depth setup).after requests) :=
    .after_empty id mode start depth setup requests
  have hhoused : Housed ((empty id mode start depth setup).after requests) :=
    after_invariant (.empty id mode start depth setup) Housed.step requests
  have hgiven : Given mode (joiners requests) ((empty id mode start depth setup).after requests) :=
    (Given.empty id mode start depth setup).after (.empty id mode start depth setup) requests
  rw [← Nat.not_le, ← List.drop_eq_nil_iff, ← hgiven.openSeats_eq]
  exact ⟨hhoused.awaits, hrest.seats⟩

/-- After any requests the seats for people are held by those who have asked for one first, in the
order of the seats. The snapshot lists the seats that are taken, Black's first, with that of the
engine. Players are waited for until as many have asked as there are seats for people; a request for
a placement does not change that. Who asks next gets the next seat. With the last one the game
begins: Black is due on the first board, and the engine plays as long as it is its turn. When no
seat is left, nobody gets one and nothing changes. -/
theorem after_gives_seats (id : Int) (mode : Mode) (start : Board) (depth : Int)
    (setup : Engine.Setup) (requests : List Request) :
    let r := (empty id mode start depth setup).after requests
    let v := r.snapshot
    let asked := (joiners requests).length
    (∀ side, r.player side = (mode.seats.zip (joiners requests)).lookup side) ∧
      r.engine.map Engine.side = mode.engineSeat? ∧
      v.seats.Pairwise (fun s t => s.code < t.code) ∧
      (∀ side, side ∈ v.seats ↔
        (∃ player, r.player side = some player) ∨ mode.engineSeat? = some side) ∧
      (v.status = .waiting ↔ asked < mode.seats.length) ∧
      (∀ player p, (r.move player p).state.snapshot.status = .waiting ↔ v.status = .waiting) ∧
      ∀ player, match mode.seats.drop asked with
        | [] => r.join player = ⟨r, [], .error (.rejected (.roomFull id))⟩
        | [side] => (r.join player).answer = .ok side ∧
          (r.join player).state.snapshot.status ≠ .waiting ∧ ∃ replies,
            PlaysOn { r.seat side player with phase := .settle start .black } replies
              (r.join player).state
        | side :: _ => r.join player = ⟨r.seat side player, [.seated id side], .ok side⟩ := by
  intro r v asked
  have hrest : AtRest start r := .after_empty id mode start depth setup requests
  have hgiven : Given mode (joiners requests) r :=
    (Given.empty id mode start depth setup).after (.empty id mode start depth setup) requests
  have hid : r.id = id := ((AtRest.empty id mode start depth setup).forward_after requests).id
  have hwait : v.status = .waiting ↔ asked < mode.seats.length :=
    Phase.status_eq_waiting_iff.trans (waiting_iff_asked id mode start depth setup requests)
  have hserve : ∀ q, (r.serve q).snapshot.status = .waiting ↔
      asked + (joiners [q]).length < mode.seats.length := by
    intro q
    have hnext := waiting_iff_asked id mode start depth setup (requests ++ [q])
    rw [after_concat, joiners_append, List.length_append] at hnext
    exact Phase.status_eq_waiting_iff.trans hnext
  have hseats : v.seats = r.takenSeats := (shown_after id mode start depth setup requests).seats
  refine ⟨hgiven.player, hgiven.engine, ?_, fun side => ?_, hwait, fun player p => ?_,
    fun player => ?_⟩
  · rw [hseats]
    exact List.Pairwise.filter _ (by decide)
  · rw [hseats, ← hgiven.engine]
    exact mem_takenSeats.trans isTaken_iff
  · exact (hserve (.move player p)).trans hwait.symm
  · have hopen : r.openSeats = mode.seats.drop asked := hgiven.openSeats_eq
    rw [← hid, ← hopen]
    match hseats : r.openSeats with
    | [] => simp only [join, hseats]
    | [side] =>
      obtain ⟨hanswer, replies, hplays⟩ := join_playsOn player hseats
      have hfirst : r.board = start := (hrest.waiting (hrest.seats (by simp [hseats]))).2
      refine ⟨hanswer, fun hw => ?_, replies, ?_⟩
      · have hmore : asked + 1 < mode.seats.length := (hserve (.join player)).1 hw
        have hlast : mode.seats.length - asked = 1 := by
          rw [← List.length_drop, ← hopen, hseats, List.length_singleton]
        omega
      · rwa [begun, hfirst] at hplays
    | side :: other :: rest => simp only [join, hseats]

end Room
end Reversi
