import Reversi.Proofs.Web.Changes

/-!
# Reversi.Proofs.Web.Holder

A player's name is good for one seat of one room.

* `Service.seatAnswer`: the answer that gives a seat; `Service.Granted`: it was given in a run.
* `Service.Occurs`: a request of a run, and the lobby that it comes to.
* `Service.granted_of_seated`: whoever sits in a room was given the seat in an answer.
* `Service.Wasted`: a name was used up for nothing; `Service.Granted.room_eq`,
  `Service.Granted.not_wasted`: no name is good for two things.
* `Service.move_by_holder`: a disc is placed only by the player who was given the seat.
-/

namespace Reversi

theorem Lobby.known_of_seated {l : Lobby} {k : Int} {mode : Mode} {depth : Option Int}
    {side : Side} {player : String} (h : (l.roomFor k mode depth).player side = some player) :
    l.rooms[k]? = some (l.roomFor k mode depth) := by
  rw [roomFor] at h ⊢
  cases hr : l.rooms[k]? with
  | some r => rfl
  | none =>
    rw [hr] at h
    cases side <;> cases h

namespace Service

/-- The answer that gives the player a seat of the room `k`. -/
def seatAnswer (k : Int) (player : String) (mode : Mode) (side : Side) : Response :=
  .ok (.obj [
    ("player_id", .str player),
    ("room_id", .int k),
    ("mode", .str mode.word),
    ("seat", .str side.name)])

variable {ρ : Type}

/-- In the course of a run, the player was given a seat of the room `k`. -/
def Granted (F : FrontEnd ρ) (ids : Nat → String) (l : Lobby) (requests : List ρ) (k : Int)
    (player : String) (side : Side) : Prop :=
  ∃ q mode, (q, seatAnswer k player mode side) ∈ F.transcript ids l requests ∧
    F.route? q = some .join ∧ F.addressee? q = some k

/-- `Occurs F ids l requests now q`: in a run that starts with the lobby `l`, the request `q` comes
to the lobby `now`. -/
inductive Occurs (F : FrontEnd ρ) (ids : Nat → String) : Lobby → List ρ → Lobby → ρ → Prop where
  | first {l : Lobby} {q : ρ} {requests : List ρ} : Occurs F ids l (q :: requests) l q
  | later {l now : Lobby} {q q' : ρ} {requests : List ρ} :
      Occurs F ids (F.handle ids l q').lobby requests now q → Occurs F ids l (q' :: requests) now q

/-- In the course of a run, the name was used up for somebody who was given no seat. -/
def Wasted (F : FrontEnd ρ) (ids : Nat → String) (l : Lobby) (requests : List ρ)
    (player : String) : Prop :=
  ∃ now q, Occurs F ids l requests now q ∧ (F.call q).takesName = true ∧
    (F.handle ids now q).response.status ≠ 200 ∧ player = ids now.issued

variable {F : FrontEnd ρ} {ids : Nat → String} {l now now' : Lobby} {q q' : ρ}
  {requests : List ρ} {k : Int} {r : Room} {player : String} {mode : Mode} {side : Side}

/-! ## Whoever sits in a room was given the seat -/

theorem joinAnswer_of_ok {reply : Reply Room Side} (h : reply.answer = .ok side) :
    joinAnswer k player reply = seatAnswer k player reply.state.mode side := by
  rw [joinAnswer, h]
  rfl

theorem seatAnswer_inj {k' : Int} {player' : String} {mode' : Mode} {side' : Side}
    (h : seatAnswer k player mode side = seatAnswer k' player' mode' side') :
    player = player' ∧ k = k' ∧ side = side' := by
  simp only [seatAnswer, Response.ok, Response.mk.injEq, Content.json.injEq, Json.obj.injEq,
    List.cons.injEq, Prod.mk.injEq, Json.str.injEq, Json.int.injEq, true_and, and_true] at h
  obtain ⟨hplayer, hk, -, hname⟩ := h
  refine ⟨hplayer, hk, ?_⟩
  cases side <;> cases side' <;> first | rfl | exact absurd hname (by decide)

theorem response_join {form : JoinForm} (hadmits : admits form.depth = true) :
    (perform ids l (.join form)).response = joinAnswer form.room (ids l.issued)
      ((l.roomFor form.room form.mode form.depth).join (ids l.issued)) := by
  obtain ⟨next, events, hjoin, -, -⟩ := join_eq ids l form rfl
  rw [perform, if_pos hadmits, hjoin]

theorem joined_of_call (ids : Nat → String) {form : JoinForm} (hcall : F.call q = .join form)
    (hadmits : admits form.depth = true) :
    l.Becomes form.room ((l.roomFor form.room form.mode form.depth).join (ids l.issued)).state
        (F.handle ids l q).lobby ∧ (F.handle ids l q).lobby.issued = l.issued + 1 := by
  obtain ⟨next, events, hjoin, hbecomes, hissued⟩ := join_eq ids l form rfl
  rw [FrontEnd.handle, hcall, perform, if_pos hadmits, hjoin]
  exact ⟨hbecomes, hissued⟩

theorem seated_handle (hl : l.Genuine) (hr : (F.handle ids l q).lobby.rooms[k]? = some r)
    (hseat : r.player side = some player) :
    (∃ r', l.rooms[k]? = some r' ∧ r'.player side = some player) ∨
      (F.route? q = some .join ∧ F.addressee? q = some k ∧
        ∃ mode, (F.handle ids l q).response = seatAnswer k player mode side) := by
  have heffect := effect_perform ids l (F.call q)
  rw [FrontEnd.handle] at hr ⊢
  generalize hcall : F.call q = call at heffect hr ⊢
  generalize (perform ids l call).lobby = next at heffect hr
  cases heffect with
  | quiet => exact .inl ⟨r, hr, hseat⟩
  | @joined form _ hadmits hbecomes =>
    rcases hbecomes.found hr with ⟨rfl, rfl⟩ | hbefore
    · have hrest := (hl.roomFor form.room form.mode form.depth).atRest.toRefereed
      rcases Room.seated_join hrest hseat with hbefore | ⟨rfl, hanswer⟩
      · exact .inl ⟨_, Lobby.known_of_seated hbefore, hbefore⟩
      · obtain ⟨hroute, hroom⟩ := FrontEnd.route?_of_call_join hcall
        exact .inr ⟨hroute, hroom, _, (response_join hadmits).trans (joinAnswer_of_ok hanswer)⟩
    · exact .inl ⟨r, hbefore, hseat⟩
  | @moved form r' _ hr' hbecomes =>
    rcases hbecomes.found hr with ⟨rfl, rfl⟩ | hbefore
    · rw [(r'.move_sameSeats form.player form.square.position).player_eq] at hseat
      exact .inl ⟨r', hr', hseat⟩
    · exact .inl ⟨r, hbefore, hseat⟩

theorem granted_of_seated (hl : l.Genuine) (hr : (F.after ids l requests).rooms[k]? = some r)
    (hseat : r.player side = some player) :
    (∃ r', l.rooms[k]? = some r' ∧ r'.player side = some player) ∨
      Granted F ids l requests k player side := by
  induction requests generalizing l with
  | nil => exact .inl ⟨r, hr, hseat⟩
  | cons q requests ih =>
    rcases ih (genuine_handle hl q) hr with ⟨r', hr', hseat'⟩ | ⟨q', mode, hmem, hroute, hroom⟩
    · rcases seated_handle hl hr' hseat' with hknown | ⟨hroute, hroom, mode, hanswer⟩
      · exact .inl hknown
      · refine .inr ⟨q, mode, ?_, hroute, hroom⟩
        rw [FrontEnd.transcript, hanswer]
        exact List.mem_cons_self
    · exact .inr ⟨q', mode, List.mem_cons_of_mem _ hmem, hroute, hroom⟩

/-! ## Names are used once -/

theorem Occurs.issued_le (h : Occurs F ids l requests now q) : l.issued ≤ now.issued := by
  induction h with
  | first => exact Nat.le_refl _
  | @later l _ _ q' _ _ ih => exact Nat.le_trans (issued_mono F ids l q') ih

theorem Occurs.issued_lt (h : Occurs F ids (F.handle ids l q).lobby requests now q')
    (htakes : (F.call q).takesName = true) : l.issued < now.issued := by
  have hissued := issued_handle F ids l q
  rw [if_pos htakes] at hissued
  have := h.issued_le
  omega

theorem Occurs.unique (h : Occurs F ids l requests now q) (h' : Occurs F ids l requests now' q')
    (htakes : (F.call q).takesName = true)
    (htakes' : (F.call q').takesName = true) (hsame : now.issued = now'.issued) :
    now = now' ∧ q = q' := by
  induction h with
  | first =>
    cases h' with
    | first => exact ⟨rfl, rfl⟩
    | later hlater' =>
      have := hlater'.issued_lt htakes
      omega
  | later hlater ih =>
    cases h' with
    | first =>
      have := hlater.issued_lt htakes'
      omega
    | later hlater' => exact ih hlater' htakes hsame

theorem occurs_of_mem_transcript {answer : Response}
    (h : (q, answer) ∈ F.transcript ids l requests) :
    ∃ now, Occurs F ids l requests now q ∧ (F.handle ids now q).response = answer := by
  induction requests generalizing l with
  | nil => cases h
  | cons q' requests ih =>
    rw [FrontEnd.transcript, List.mem_cons] at h
    rcases h with hfirst | hlater
    · cases hfirst
      exact ⟨l, .first, rfl⟩
    · obtain ⟨now, hoccurs, hanswer⟩ := ih hlater
      exact ⟨now, .later hoccurs, hanswer⟩

theorem name_of_seatAnswer (hroute : F.route? q = some .join)
    (hanswer : (F.handle ids l q).response = seatAnswer k player mode side) :
    (F.call q).takesName = true ∧ player = ids l.issued := by
  have hok : (F.handle ids l q).response.status = 200 := by
    rw [hanswer]
    rfl
  obtain ⟨form, hcall, -⟩ := FrontEnd.call_of_join hroute hok
  rw [FrontEnd.handle, hcall] at hanswer hok
  rw [hcall]
  by_cases hadmits : admits form.depth = true
  · rw [response_join hadmits] at hanswer hok
    refine ⟨hadmits, ?_⟩
    generalize (l.roomFor form.room form.mode form.depth).join (ids l.issued) = reply
      at hanswer hok
    cases hreply : reply.answer with
    | error e =>
      rw [joinAnswer, hreply] at hok
      exact absurd hok (refusal_status_ne e)
    | ok side' =>
      rw [joinAnswer_of_ok hreply] at hanswer
      exact (seatAnswer_inj hanswer).1.symm
  · rw [perform, if_neg hadmits] at hok
    cases hok

theorem Granted.occurs (h : Granted F ids l requests k player side) :
    ∃ now q mode, Occurs F ids l requests now q ∧ (F.call q).takesName = true ∧
      player = ids now.issued ∧ (F.handle ids now q).response = seatAnswer k player mode side := by
  obtain ⟨q, mode, hmem, hroute, -⟩ := h
  obtain ⟨now, hoccurs, hanswer⟩ := occurs_of_mem_transcript hmem
  obtain ⟨htakes, hname⟩ := name_of_seatAnswer hroute hanswer
  exact ⟨now, q, mode, hoccurs, htakes, hname, hanswer⟩

theorem Granted.unique (hids : Function.Injective ids) {k' : Int} {side' : Side}
    (h : Granted F ids l requests k player side) (h' : Granted F ids l requests k' player side') :
    k = k' ∧ side = side' := by
  obtain ⟨now, q, mode, hoccurs, htakes, hname, hanswer⟩ := h.occurs
  obtain ⟨now', q', mode', hoccurs', htakes', hname', hanswer'⟩ := h'.occurs
  obtain ⟨rfl, rfl⟩ :=
    hoccurs.unique hoccurs' htakes htakes' (hids (hname.symm.trans hname'))
  exact (seatAnswer_inj (hanswer.symm.trans hanswer')).2

theorem Granted.not_wasted (hids : Function.Injective ids)
    (h : Granted F ids l requests k player side) : ¬ Wasted F ids l requests player := by
  rintro ⟨now', q', hoccurs', htakes', hno, hname'⟩
  obtain ⟨now, q, mode, hoccurs, htakes, hname, hanswer⟩ := h.occurs
  obtain ⟨rfl, rfl⟩ :=
    hoccurs.unique hoccurs' htakes htakes' (hids (hname.symm.trans hname'))
  rw [hanswer] at hno
  exact hno rfl

/-! ## Placements -/

theorem placed_of_ok {form : MoveForm} (hcall : F.call q = .move form)
    (hok : (F.handle ids l q).response.status = 200) :
    ∃ side r last replies, l.rooms[form.room]? = some r ∧ r.player side = some form.player ∧
      form.square ∈ r.board.legalMoves side ∧
      (F.handle ids l q).lobby.rooms[form.room]? = some last ∧
      Room.PlaysOn (r.played side form.square) replies last := by
  rw [FrontEnd.handle, hcall] at hok ⊢
  obtain ⟨r, hr, hanswer, -, hbecomes⟩ := moved_of_ok hok
  rcases Room.move_cases r form.player form.square.position with
    ⟨_, -, hrefused⟩ | ⟨_, -, -, hrefused⟩ | ⟨side, s, hmover, hs, hsquare, -⟩
  · rw [hrefused] at hanswer
    cases hanswer
  · rw [hrefused] at hanswer
    cases hanswer
  · obtain rfl := Square.position_injective hsquare
    obtain ⟨-, replies, hplays⟩ := Room.move_playsOn hmover hs
    exact ⟨side, r, _, replies, hr, Room.player_of_mover hmover, hs, hbecomes.here, hplays⟩

/-- A player's name is good for one seat of one room, if all names are different. If a disc is
placed, then the player was given, earlier and in the answer to a request for a seat of that room,
a seat of the side whose disc it is; only the engine's replies follow. Other names place nothing
and change nothing: those that are good for another room, those that were used up without a seat,
and those that nobody was given. -/
theorem move_by_holder (F : FrontEnd ρ) (hids : Function.Injective ids) (depth : Int)
    (setup : Engine.Setup) (before : List ρ) (q : ρ) :
    let l := F.after ids (.empty depth setup) before
    let answer := (F.handle ids l q).response
    let next := (F.handle ids l q).lobby
    let granted := Granted F ids (.empty depth setup) before
    (∀ player k side k' side', granted k player side → granted k' player side' →
        k = k' ∧ side = side') ∧
      (F.route? q = some .move → answer.status = 200 →
        ∃ form side, F.call q = .move form ∧ granted form.room form.player side ∧
          ∃ r last replies, l.rooms[form.room]? = some r ∧ next.rooms[form.room]? = some last ∧
            form.square ∈ r.board.legalMoves side ∧
            Room.PlaysOn (r.played side form.square) replies last ∧
            last.log = r.log ++ Room.recordOf r.board side form.square :: replies) ∧
      ∀ form, F.call q = .move form →
        ((∃ k side, k ≠ form.room ∧ granted k form.player side) ∨
          Wasted F ids (.empty depth setup) before form.player ∨
          ∀ k side, ¬ granted k form.player side) →
        answer.status ≠ 200 ∧ ∀ j : Int, next.rooms[j]? = l.rooms[j]? := by
  intro l answer next granted
  have hl : l.Genuine := genuine_after (.empty depth setup) before
  -- There is nobody in an empty lobby, so everybody who sits in a room was given the seat.
  have hseated : ∀ (k : Int) (r : Room) (player : String) (side : Side), l.rooms[k]? = some r →
      r.player side = some player → granted k player side := by
    intro k r player side hr hseat
    rcases granted_of_seated (.empty depth setup) hr hseat with ⟨r', hr', -⟩ | hgranted
    · simp [Lobby.empty] at hr'
    · exact hgranted
  refine ⟨fun player k side k' side' h h' => h.unique hids h', ?placed, ?kept⟩
  case placed =>
    intro hroute hok
    obtain ⟨form, hcall, -⟩ := FrontEnd.call_of_move hroute hok
    obtain ⟨side, r, last, replies, hr, hseat, hs, hlast, hplays⟩ := placed_of_ok hcall hok
    have hgranted := hseated _ _ _ _ hr hseat
    refine ⟨form, side, hcall, hgranted, r, last, replies, hr, hlast, hs, hplays, ?_⟩
    rw [hplays.log_eq, Room.played_log, List.append_assoc, List.singleton_append]
  case kept =>
    intro form hcall hstrange
    have hno : answer.status ≠ 200 := by
      intro hok
      obtain ⟨side, r, last, replies, hr, hseat, -⟩ := placed_of_ok hcall hok
      have hgranted := hseated _ _ _ _ hr hseat
      rcases hstrange with ⟨k, side', hk, hother⟩ | hwasted | hguessed
      · exact hk (hother.unique hids hgranted).1
      · exact hgranted.not_wasted hids hwasted
      · exact hguessed _ _ hgranted
    exact ⟨hno, kept_of_not_accepted hl fun haccepted => hno haccepted.2⟩

open FrontEnd (http)

/-- Two players come to a room, and the first of them opens the game. -/
theorem move_by_holder_opening :
    let ids (n : Nat) : String := String.ofList (List.replicate (n + 1) 'p')
    let join : Request :=
      ⟨⟨[], [], [], [], [], [], []⟩, Text.glyphs "POST", ⟨"/join", [("room", "1")]⟩, none⟩
    let asked : Request :=
      ⟨⟨[], [], [], [], [], [], []⟩, Text.glyphs "POST", ⟨"/move", [("room", "1")]⟩, none⟩
    let opening : Request := { asked with body := some (MoveForm.body ⟨2, 3⟩ "p") }
    Function.Injective ids ∧
      (http.handle ids (http.after ids (.empty 3) [join, join]) opening).response.status = 200 ∧
      ∃ side, Granted http ids (.empty 3) [join, join] 1 "p" side := by
  intro ids join asked opening
  have hids : Function.Injective ids := by
    intro m n h
    have hlen := congrArg String.length h
    simpa [ids] using hlen
  have hjoin : http.call join = .join ⟨1, .people, none⟩ := rfl
  have hroute : asked.route? = some .move := by decide +kernel
  have hroom : asked.room = .ok 1 := rfl
  have hname : "p" ≠ "" := by decide
  have hopening : http.call opening = .move ⟨1, ⟨2, 3⟩, "p"⟩ := by
    rw [FrontEnd.http_call]
    exact Call.ofRequest_body hroute hroom ⟨2, 3⟩ hname
  have hnew : (Lobby.empty 3).roomFor 1 .people none = .empty 1 .people .start 3 := by
    simp [Lobby.roomFor, Lobby.newRoom, Lobby.empty, Lobby.depthOf]
  obtain ⟨hfirst, hissued⟩ := joined_of_call ids (l := .empty 3) hjoin rfl
  obtain ⟨hsecond, -⟩ :=
    joined_of_call ids (l := (http.handle ids (.empty 3) join).lobby) hjoin rfl
  rw [hissued, Lobby.roomFor, hfirst.here, hnew] at hsecond
  let room : Room := (((Room.empty 1 .people .start 3).join (ids 0)).state.join (ids 1)).state
  have hroom : (http.after ids (.empty 3) [join, join]).rooms[(1 : Int)]? = some room :=
    hsecond.here
  have hlegal : (room.move "p" (Square.position ⟨2, 3⟩)).answer = .ok () := by decide +kernel
  have hok :
      (http.handle ids (http.after ids (.empty 3) [join, join]) opening).response.status = 200 := by
    obtain ⟨next, events, hmove, -, -⟩ := move_eq ⟨1, ⟨2, 3⟩, "p"⟩ hroom rfl
    rw [FrontEnd.handle, hopening, perform, hmove, moveAnswer, hlegal]
    rfl
  obtain ⟨form, side, hcall, hgranted, -⟩ :=
    (move_by_holder http hids 3 .standard [join, join] opening).2.1 hroute hok
  rw [hopening] at hcall
  cases hcall
  exact ⟨hids, hok, side, hgranted⟩

end Service
end Reversi
