import Reversi.Proofs.Room.Replies

/-!
# Reversi.Proofs.Room.Acceptance

Which placements a room accepts, told by its snapshot and by who holds which seat.

* `Room.Offered`: it is the player's turn and the place is listed.
* `Room.Bars`: the first reason that applies why a placement is not accepted.
* `Room.Enrolled`: the seats are held by different people who have asked for one.
* `Room.after_accepts_offered`: accepted is what is offered; a placement that is not leaves
  everything as it was; and while a game goes on somebody is offered something.
-/

namespace Reversi
namespace Room

/-- The names that seats were asked for under, in order. -/
def joiners (requests : List Request) : List String :=
  requests.filterMap fun
    | .join player => some player
    | _ => none

theorem joiners_append (earlier later : List Request) :
    joiners (earlier ++ later) = joiners earlier ++ joiners later := List.filterMap_append

theorem joiners_cons (q : Request) (requests : List Request) :
    joiners (q :: requests) = joiners [q] ++ joiners requests := joiners_append [q] requests

structure Offered (r : Room) (player : String) (p : Position) : Prop where
  active : r.snapshot.status = .active
  turn : ∃ side, r.snapshot.turn = some side ∧ r.player side = some player
  listed : ∃ s ∈ r.snapshot.legalMoves, s.position = p

/-- The reasons in the order in which they are looked at: each one presupposes that those before it
do not apply. -/
inductive Bars (r : Room) (player : String) (p : Position) : Rejection → Prop where
  | over {o : Outcome} : r.snapshot.status = .finished o → Bars r player p .gameOver
  | early : r.snapshot.status = .waiting → Bars r player p .notStarted
  | stranger : r.snapshot.status = .active → (∀ side, r.player side ≠ some player) →
      Bars r player p (.notYourTurn (.notSeated r.id))
  | waits {turn side : Side} : r.snapshot.status = .active → r.snapshot.turn = some turn →
      r.player side = some player → r.player turn ≠ some player →
      Bars r player p (.notYourTurn (.otherSide turn))
  | illegal {turn : Side} : r.snapshot.status = .active → r.snapshot.turn = some turn →
      r.player turn = some player → (∀ s ∈ r.snapshot.legalMoves, s.position ≠ p) →
      Bars r player p (.illegalMove ⟨turn, p⟩)

/-! ## Who holds the seats -/

structure Enrolled (names : List String) (r : Room) : Prop where
  named : ∀ side player, r.player side = some player → player ∈ names
  apart : ∀ player, r.black = some player → r.white ≠ some player

variable {names : List String} {start : Board} {r next : Room} {side : Side} {player : String}
  {p : Position}

theorem Enrolled.empty (id : Int) (mode : Mode) (start : Board) (depth : Int)
    (setup : Engine.Setup) : Enrolled [] (empty id mode start depth setup) := by
  refine ⟨fun side player h => ?_, fun player h => ?_⟩
  · cases side <;> cases h
  · cases h

theorem Enrolled.mono {more : List String} (h : Enrolled names r) :
    Enrolled (names ++ more) r :=
  ⟨fun side player hp => List.mem_append_left _ (h.named side player hp), h.apart⟩

theorem Enrolled.of_sameSeats (h : Enrolled names r) (hsame : SameSeats r next) :
    Enrolled names next := by
  refine ⟨fun side player hp => ?_, fun player hp => ?_⟩
  · rw [hsame.player_eq] at hp
    exact h.named side player hp
  · rw [hsame.black] at hp
    rw [hsame.white]
    exact h.apart player hp

theorem Enrolled.seat (h : Enrolled names r) (side : Side) (hnew : player ∉ names) :
    Enrolled (names ++ [player]) (r.seat side player) := by
  refine ⟨fun t other hp => ?_, fun other hblack hwhite => ?_⟩
  · rw [player_seat] at hp
    split at hp
    · cases hp
      simp
    · exact List.mem_append_left _ (h.named t other hp)
  · have hb := player_seat r side .black player
    have hw := player_seat r side .white player
    cases side with
    | black =>
      rw [if_pos rfl] at hb
      rw [if_neg (by decide)] at hw
      obtain rfl : player = other := Option.some.inj (hb.symm.trans hblack)
      exact hnew (h.named .white player (hw.symm.trans hwhite))
    | white =>
      rw [if_neg (by decide)] at hb
      rw [if_pos rfl] at hw
      obtain rfl : player = other := Option.some.inj (hw.symm.trans hwhite)
      exact hnew (h.named .black player (hb.symm.trans hblack))

theorem Enrolled.serve (h : Enrolled names r) (hrest : Refereed start r) (q : Request)
    (hnew : ∀ player ∈ joiners [q], player ∉ names) :
    Enrolled (names ++ joiners [q]) (r.serve q) := by
  cases q with
  | join player =>
    have hnew : player ∉ names := hnew player (by simp [joiners])
    rw [Room.serve]
    rcases join_cases hrest player with ⟨-, hjoin⟩ | ⟨side, _, _, _, _, hsame⟩
    · rw [hjoin]
      exact h.mono
    · exact (h.seat side hnew).of_sameSeats hsame
  | move player p => exact h.mono.of_sameSeats (r.move_sameSeats player p)
  | look => exact h.mono

theorem Enrolled.after (h : Enrolled names r) (hrest : AtRest start r) (requests : List Request)
    (hnew : (names ++ joiners requests).Nodup) :
    Enrolled (names ++ joiners requests) (r.after requests) := by
  induction requests generalizing names r with
  | nil => exact h.mono
  | cons q requests ih =>
    rw [joiners_cons, ← List.append_assoc] at hnew ⊢
    have hfirst := (List.nodup_append.1 (List.nodup_append.1 hnew).1).2.2
    have hstep : Enrolled (names ++ joiners [q]) (r.serve q) :=
      h.serve hrest.toRefereed q fun player hq hn => hfirst player hn player hq rfl
    exact ih hstep (hrest.serve q) hnew

/-! ## Who may move -/

theorem seatOf_eq_some_iff (h : Enrolled names r) :
    r.seatOf player = some side ↔ r.player side = some player := by
  have happart := h.apart player
  cases side <;> simp only [seatOf, Room.player] <;> grind

theorem seatOf_eq_none_iff : r.seatOf player = none ↔ ∀ side, r.player side ≠ some player := by
  constructor
  · intro h side
    cases side <;> simp only [seatOf, Room.player] at h ⊢ <;> grind
  · intro h
    have hblack : r.black ≠ some player := h .black
    have hwhite : r.white ≠ some player := h .white
    simp only [seatOf, if_neg hblack, if_neg hwhite]

theorem mover_cases (h : Enrolled names r) (player : String) (p : Position) :
    (∃ e, r.mover player = .error e ∧ Bars r player p e ∧ ¬ Offered r player p) ∨
      ∃ turn, r.mover player = .ok turn ∧ r.snapshot.status = .active ∧
        r.snapshot.turn = some turn ∧ r.player turn = some player ∧
        r.snapshot.legalMoves = r.board.legalMoves turn := by
  cases hphase : r.phase with
  | finished o =>
    have hstatus : r.snapshot.status = .finished o := congrArg Phase.status hphase
    refine .inl ⟨.gameOver, by simp only [mover, hphase], .over hstatus, fun hoffer => ?_⟩
    rw [hoffer.active] at hstatus
    cases hstatus
  | waiting =>
    have hstatus : r.snapshot.status = .waiting := congrArg Phase.status hphase
    refine .inl ⟨.notStarted, by simp only [mover, hphase], .early hstatus, fun hoffer => ?_⟩
    rw [hoffer.active] at hstatus
    cases hstatus
  | playing turn passed =>
    have hstatus : r.snapshot.status = .active := congrArg Phase.status hphase
    have hturn : r.snapshot.turn = some turn := congrArg Phase.turn? hphase
    cases hseat : r.seatOf player with
    | none =>
      have hstranger := seatOf_eq_none_iff.1 hseat
      refine .inl ⟨.notYourTurn (.notSeated r.id), by simp only [mover, hphase, hseat],
        .stranger hstatus hstranger, fun hoffer => ?_⟩
      obtain ⟨side, -, hside⟩ := hoffer.turn
      exact hstranger side hside
    | some side =>
      have hside := (seatOf_eq_some_iff h).1 hseat
      by_cases hdue : side = turn
      · subst hdue
        refine .inr ⟨side, by simp only [mover, hphase, hseat, if_true], hstatus, hturn, hside, ?_⟩
        exact congrArg (Phase.legalMoves r.board) hphase
      · have hother : r.player turn ≠ some player := by
          intro hplayer
          rw [← seatOf_eq_some_iff h, hseat] at hplayer
          exact hdue (Option.some.inj hplayer)
        refine .inl ⟨.notYourTurn (.otherSide turn),
          by simp only [mover, hphase, hseat, if_neg hdue],
          .waits hstatus hturn hside hother, fun hoffer => ?_⟩
        obtain ⟨side', hside', hplayer⟩ := hoffer.turn
        obtain rfl : turn = side' := Option.some.inj (hturn.symm.trans hside')
        exact hother hplayer

theorem move_decided (h : Enrolled names r) (player : String) (p : Position) :
    ((r.move player p).answer = .ok () ∧ Offered r player p) ∨
      (¬ Offered r player p ∧
        ∃ e, Bars r player p e ∧ r.move player p = ⟨r, [], .error (.rejected e)⟩) := by
  rcases mover_cases h player p with
    ⟨e, hmover, hbars, hoffer⟩ | ⟨turn, hmover, hstatus, hturn, hplayer, hlist⟩
  · refine .inr ⟨hoffer, e, hbars, ?_⟩
    simp only [move, hmover]
  · rcases move_cases r player p with
      ⟨e, herror, -⟩ | ⟨side, hside, hunlisted, hmove⟩ | ⟨side, s, hside, hs, hp, hanswer, -⟩
    · rw [hmover] at herror
      cases herror
    · obtain rfl : turn = side := Except.ok.inj (hmover.symm.trans hside)
      rw [← hlist] at hunlisted
      refine .inr ⟨fun hoffer => ?_, _, .illegal hstatus hturn hplayer hunlisted, hmove⟩
      obtain ⟨s, hs, hp⟩ := hoffer.listed
      exact hunlisted s hs hp
    · obtain rfl : turn = side := Except.ok.inj (hmover.symm.trans hside)
      rw [← hlist] at hs
      exact .inl ⟨hanswer, hstatus, ⟨turn, hturn, hplayer⟩, s, hs, hp⟩

theorem AtRest.turn_taken (h : AtRest start r) (hturn : r.phase.turn? = some side) :
    ∃ player, r.player side = some player := by
  have hfull : r.openSeats = [] := by
    by_contra hopen
    exact Phase.ne_waiting hturn (h.seats hopen)
  have htaken : r.isTaken side = true := by
    rw [← Bool.not_eq_false, ← mem_openSeats, hfull]
    exact List.not_mem_nil
  have hidle := Option.filter_eq_none_iff.1 h.idle
  rw [isTaken, Bool.or_eq_true] at htaken
  rcases htaken with hperson | hengine
  · exact Option.isSome_iff_exists.1 hperson
  · obtain ⟨e, he, hside⟩ := (Option.any_eq_true _ _).1 hengine
    have hdue : (r.phase.turn? == some e.side) = true := by
      rw [hturn, beq_iff_eq.1 hside]
      exact beq_self_eq_true _
    exact absurd hdue (hidle e he)

theorem AtRest.not_stuck (h : AtRest start r) (hactive : r.snapshot.status = .active) :
    r.snapshot.legalMoves ≠ [] ∧
      ∃ turn player, r.snapshot.turn = some turn ∧ r.player turn = some player := by
  change r.phase.status = .active at hactive
  cases hphase : r.phase with
  | waiting =>
    rw [hphase] at hactive
    cases hactive
  | finished o =>
    rw [hphase] at hactive
    cases hactive
  | playing turn passed =>
    have hturn : r.phase.turn? = some turn := congrArg Phase.turn? hphase
    have hlist : r.snapshot.legalMoves = r.board.legalMoves turn :=
      congrArg (Phase.legalMoves r.board) hphase
    obtain ⟨player, hplayer⟩ := h.turn_taken hturn
    refine ⟨?_, turn, player, hturn, hplayer⟩
    rw [hlist, Ne, Board.legalMoves_eq_nil_iff, h.ready turn hturn]
    exact Bool.noConfusion

/-- After any requests that asked for seats under different names, a placement is accepted exactly
when it is offered, and else it is refused for the first reason that applies, nothing changes and
nothing is recorded. While the game goes on, it is the turn of a person who has somewhere to
place a disc. -/
theorem after_accepts_offered (id : Int) (mode : Mode) (start : Board) (depth : Int)
    (setup : Engine.Setup) {requests : List Request} (hnames : (joiners requests).Nodup)
    (player : String) (p : Position) :
    let r := (empty id mode start depth setup).after requests
    ((r.move player p).answer = .ok () ↔ Offered r player p) ∧
      (¬ Offered r player p →
        ∃ e, Bars r player p e ∧ r.move player p = ⟨r, [], .error (.rejected e)⟩) ∧
      (r.snapshot.status = .active → r.snapshot.legalMoves ≠ [] ∧
        ∃ turn holder, r.snapshot.turn = some turn ∧ r.player turn = some holder ∧
          holder ∈ joiners requests) := by
  intro r
  have hrest : AtRest start r := .after_empty id mode start depth setup requests
  have hseats : Enrolled (joiners requests) r :=
    (Enrolled.empty id mode start depth setup).after (.empty id mode start depth setup) requests
      hnames
  refine ⟨?_, fun hoffer => ?_, fun hactive => ?_⟩
  · rcases move_decided hseats player p with ⟨hok, hoffer⟩ | ⟨hoffer, e, -, hrefused⟩
    · exact iff_of_true hok hoffer
    · exact iff_of_false (by simp [hrefused]) hoffer
  · rcases move_decided hseats player p with ⟨-, hyes⟩ | ⟨-, hrefused⟩
    · exact absurd hyes hoffer
    · exact hrefused
  · obtain ⟨hlist, turn, holder, hturn, hholder⟩ := hrest.not_stuck hactive
    exact ⟨hlist, turn, holder, hturn, hholder, hseats.named turn holder hholder⟩

/-- Black opens a game between two people. -/
theorem after_accepts_offered_opening :
    (joiners [.join "ann", .join "bob"]).Nodup ∧
      (((empty 1 .people .start 3).after [.join "ann", .join "bob"]).move "ann" ⟨2, 3⟩).answer =
        .ok () := by
  have hnames : (joiners [.join "ann", .join "bob"]).Nodup := by decide
  refine ⟨hnames, ((after_accepts_offered 1 .people .start 3 .standard hnames "ann" ⟨2, 3⟩).1).2 ?_⟩
  exact ⟨by decide +kernel, ⟨.black, by decide +kernel, rfl⟩, ⟨2, 3⟩, by decide +kernel, rfl⟩

end Room
end Reversi
