import Reversi.Proofs.Lobby
import Reversi.Proofs.Web.FrontEnd

/-!
# Reversi.Proofs.Web.Run

Runs of the service, and what each call does to the rooms.

* `Service.join_eq`, `Service.move_eq`: a call to a room does to it what the room itself does.
* `Service.Effect`: the lobby after a call; `Service.effect_perform`.
* `Lobby.Genuine`: every room is a game that players could have played; `Service.genuine_after`.
-/

namespace Reversi

/-- Whoever asks for a seat with an engine that there is uses up a name, with or without success. -/
def Call.takesName : Call → Bool
  | .join form => Service.admits form.depth
  | _ => false

namespace Service

/-! ## Answers -/

def refusal : Refusal → Response
  | .rejected e => .detail e.kind.status e.json
  | .unrecognized _ => .internalError
  | .engine _ => .internalError

/-- The answer to a player who asked the room `k` for a seat. -/
def joinAnswer (k : Int) (player : String) (reply : Reply Room Side) : Response :=
  match reply.answer with
  | .error e => refusal e
  | .ok side => .ok (.obj [
      ("player_id", .str player),
      ("room_id", .int k),
      ("mode", .str reply.state.mode.word),
      ("seat", .str side.name)])

/-- The answer to a player who placed a disc. -/
def moveAnswer (reply : Reply Room Unit) : Response :=
  match reply.answer with
  | .error e => refusal e
  | .ok () => .ok (.obj [("status", .str "ok"), ("state", reply.state.snapshot.json)])

theorem refuse_eq (l : Lobby) (events : List Event) (k : Int) (e : Refusal) :
    ∃ events', refuse l events k e = ⟨l, events', refusal e⟩ := by
  cases e <;> exact ⟨_, rfl⟩

variable {ids : Nat → String} {l next : Lobby} {k : Int} {r : Room}

theorem join_eq (ids : Nat → String) (l : Lobby) (form : JoinForm) {reply : Reply Room Side}
    (hreply : (l.roomFor form.room form.mode form.depth).join (ids l.issued) = reply) :
    ∃ next events, join ids l form = ⟨next, events, joinAnswer form.room (ids l.issued) reply⟩ ∧
      l.Becomes form.room reply.state next ∧ next.issued = l.issued + 1 := by
  obtain ⟨next, events, hjoin, hbecomes, hissued⟩ :=
    Lobby.join_eq ids (fun _ => Lobby.modeOf_word form.mode) form.depth
  rw [hreply] at hjoin hbecomes
  rw [join, joinAnswer, hjoin]
  cases reply.answer with
  | error e =>
    obtain ⟨events', hrefuse⟩ := refuse_eq next events form.room e
    exact ⟨next, events', hrefuse, hbecomes, hissued⟩
  | ok side =>
    refine ⟨next, events, ?_, hbecomes, hissued⟩
    simp only [conclude, Except.map, Lobby.find, hbecomes.here]

theorem move_eq_of_unknown (form : MoveForm) (h : l.rooms[form.room]? = none) :
    ∃ events, move l form = ⟨l, events, refusal (.rejected (.unknownRoom form.room))⟩ := by
  simp only [move, Lobby.within, Lobby.find, h, conclude]
  exact refuse_eq _ _ _ _

theorem move_eq (form : MoveForm) {reply : Reply Room Unit} (h : l.rooms[form.room]? = some r)
    (hreply : r.move form.player form.square.position = reply) :
    ∃ next events, move l form = ⟨next, events, moveAnswer reply⟩ ∧
      l.Becomes form.room reply.state next ∧ next.issued = l.issued := by
  have hwithin : l.within form.room (fun room => room.move form.player form.square.position) =
      ⟨l.put form.room reply.state, reply.events, reply.answer⟩ := by
    simp only [Lobby.within, Lobby.find, h, hreply]
  have hbecomes := l.becomes_put form.room reply.state
  rw [move, moveAnswer, hwithin]
  cases reply.answer with
  | error e =>
    obtain ⟨events, hrefuse⟩ := refuse_eq (l.put form.room reply.state) reply.events form.room e
    exact ⟨_, events, hrefuse, hbecomes, rfl⟩
  | ok =>
    refine ⟨_, reply.events, ?_, hbecomes, rfl⟩
    simp only [conclude, Lobby.find, hbecomes.here]

theorem state_eq_of_unknown (h : l.rooms[k]? = none) :
    ∃ events, state l k = ⟨l, events, refusal (.rejected (.unknownRoom k))⟩ := by
  simp only [state, Lobby.find, h]
  exact refuse_eq _ _ _ _

theorem state_eq (h : l.rooms[k]? = some r) : state l k = ⟨l, [], .ok r.snapshot.json⟩ := by
  simp only [state, Lobby.find, h]

theorem refusal_status_ne (e : Refusal) : (refusal e).status ≠ 200 := by
  cases e with
  | rejected e =>
    change e.kind.status ≠ 200
    cases e.kind <;> decide
  | unrecognized | engine =>
    change 500 ≠ 200
    decide

/-! ## What a call can do -/

/-- The lobby after a call. -/
inductive Effect (ids : Nat → String) (l : Lobby) : Call → Lobby → Prop where
  | quiet {call : Call} : call.takesName = false → Effect ids l call l
  | joined {form : JoinForm} {next : Lobby} : admits form.depth = true →
      l.Becomes form.room ((l.roomFor form.room form.mode form.depth).join (ids l.issued)).state
        next → next.issued = l.issued + 1 → Effect ids l (.join form) next
  | moved {form : MoveForm} {r : Room} {next : Lobby} : l.rooms[form.room]? = some r →
      l.Becomes form.room (r.move form.player form.square.position).state next →
      next.issued = l.issued → Effect ids l (.move form) next

theorem effect_perform (ids : Nat → String) (l : Lobby) (call : Call) :
    Effect ids l call (perform ids l call).lobby := by
  cases call with
  | page | health | fixed | refused => exact .quiet rfl
  | join form =>
    rw [perform]
    split
    · rename_i hadmits
      obtain ⟨next, events, hjoin, hbecomes, hissued⟩ := join_eq ids l form rfl
      rw [hjoin]
      exact .joined hadmits hbecomes hissued
    · rename_i hdenies
      exact .quiet (Bool.not_eq_true _ ▸ hdenies)
  | move form =>
    rw [perform]
    cases hr : l.rooms[form.room]? with
    | none =>
      obtain ⟨events, hmove⟩ := move_eq_of_unknown form hr
      rw [hmove]
      exact .quiet rfl
    | some r =>
      obtain ⟨next, events, hmove, hbecomes, hissued⟩ := move_eq form hr rfl
      rw [hmove]
      exact .moved hr hbecomes hissued
  | state k =>
    rw [perform]
    cases hr : l.rooms[k]? with
    | none =>
      obtain ⟨events, hstate⟩ := state_eq_of_unknown hr
      rw [hstate]
      exact .quiet rfl
    | some r =>
      rw [state_eq hr]
      exact .quiet rfl

theorem Effect.newRoom_eq {call : Call} (h : Effect ids l call next) :
    next.newRoom = l.newRoom := by
  cases h with
  | quiet => rfl
  | joined _ hbecomes => exact hbecomes.newRoom_eq
  | moved _ hbecomes => exact hbecomes.newRoom_eq

theorem Effect.issued {call : Call} (h : Effect ids l call next) :
    next.issued = if call.takesName then l.issued + 1 else l.issued := by
  cases h with
  | quiet hquiet => rw [hquiet]; rfl
  | joined hadmits _ hissued => rw [hissued, Call.takesName, hadmits]; rfl
  | moved _ _ hissued => rw [hissued]; rfl

variable {ρ : Type}

theorem issued_handle (F : FrontEnd ρ) (ids : Nat → String) (l : Lobby) (q : ρ) :
    (F.handle ids l q).lobby.issued =
      if (F.call q).takesName then l.issued + 1 else l.issued :=
  (effect_perform ids l (F.call q)).issued

theorem issued_mono (F : FrontEnd ρ) (ids : Nat → String) (l : Lobby) (q : ρ) :
    l.issued ≤ (F.handle ids l q).lobby.issued := by
  rw [issued_handle]
  split <;> omega

end Service

/-! ## Rooms are games -/

/-- Players could have come to the room `k` as it is, starting with an empty one. -/
def Room.Genuine (k : Int) (r : Room) : Prop :=
  ∃ mode depth setup requests, (Room.empty k mode .start depth setup).after requests = r

theorem Room.Genuine.serve {k : Int} {r : Room} (h : r.Genuine k) (q : Room.Request) :
    (r.serve q).Genuine k := by
  obtain ⟨mode, depth, setup, requests, rfl⟩ := h
  exact ⟨mode, depth, setup, requests ++ [q], Room.after_concat _ requests q⟩

theorem Room.Genuine.atRest {k : Int} {r : Room} (h : r.Genuine k) : r.AtRest .start := by
  obtain ⟨mode, depth, setup, requests, rfl⟩ := h
  exact .after_empty k mode .start depth setup requests

theorem Room.Genuine.shown {k : Int} {r : Room} (h : r.Genuine k) : r.Shown := by
  obtain ⟨mode, depth, setup, requests, rfl⟩ := h
  exact shown_after k mode .start depth setup requests

def Lobby.Genuine (l : Lobby) : Prop :=
  ∀ (k : Int) (r : Room), l.rooms[k]? = some r → r.Genuine k

namespace Lobby.Genuine

variable {l next : Lobby} {k : Int} {r : Room}

theorem empty (depth : Int) (setup : Engine.Setup) : (Lobby.empty depth setup).Genuine := by
  intro k r h
  simp [Lobby.empty] at h

theorem becomes (h : l.Genuine) (hr : r.Genuine k) (hnext : l.Becomes k r next) :
    next.Genuine := by
  intro j r' hr'
  rcases hnext.found hr' with ⟨rfl, rfl⟩ | hbefore
  · exact hr
  · exact h j r' hbefore

theorem roomFor (h : l.Genuine) (k : Int) (mode : Mode) (depth : Option Int) :
    (l.roomFor k mode depth).Genuine k := by
  rw [Lobby.roomFor]
  cases hr : l.rooms[k]? with
  | some r => exact h k r hr
  | none => exact ⟨mode, l.depthOf depth, l.setup, [], rfl⟩

end Lobby.Genuine

namespace Service

variable {ids : Nat → String} {l next : Lobby} {call : Call}

theorem Effect.genuine (h : Effect ids l call next) (hl : l.Genuine) : next.Genuine := by
  cases h with
  | quiet => exact hl
  | joined _ hbecomes => exact hl.becomes ((hl.roomFor _ _ _).serve (.join (ids l.issued))) hbecomes
  | @moved form r _ hr hbecomes =>
    exact hl.becomes ((hl _ _ hr).serve (.move form.player form.square.position)) hbecomes

variable {ρ : Type} {F : FrontEnd ρ}

theorem genuine_handle (h : l.Genuine) (q : ρ) : (F.handle ids l q).lobby.Genuine :=
  (effect_perform ids l (F.call q)).genuine h

theorem genuine_after (h : l.Genuine) (requests : List ρ) :
    (F.after ids l requests).Genuine := by
  induction requests generalizing l with
  | nil => exact h
  | cons q requests ih => exact ih (genuine_handle h q)

end Service
end Reversi
