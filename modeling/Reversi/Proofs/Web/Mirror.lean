import Reversi.Proofs.Room.Renaming
import Reversi.Proofs.Web.Run

/-!
# Reversi.Proofs.Web.Mirror

The service does not care what players are called.

* `Lobby.Mirrors`: a lobby where one room is that of another lobby, with other names.
* `Service.mirrors_perform`: a call to the room is answered alike, and the lobbies stay alike.
-/

namespace Reversi

namespace Service

variable {f : String → String}

theorem refusal_renamed (f : String → String) (e : Refusal) :
    (refusal e).renamed f = refusal e := by
  cases e with
  | rejected e => exact Response.renamed_detail f _ _
  | unrecognized | engine => rfl

theorem joinAnswer_renamed (f : String → String) (k : Int) (player : String)
    (reply : Reply Room Side) :
    joinAnswer k (f player) (reply.renamed f) = (joinAnswer k player reply).renamed f := by
  rw [joinAnswer, joinAnswer, Reply.renamed]
  cases reply.answer with
  | error e => exact (refusal_renamed f e).symm
  | ok side =>
    simp [Response.renamed, Response.ok, Content.renamed, Json.renamed, Json.mapString,
      Room.mode_renamed]

theorem renamed_snapshot (f : String → String) (v : Snapshot) : v.json.renamed f = v.json := by
  simp [Snapshot.json, Json.renamed]

theorem moveAnswer_renamed (f : String → String) (reply : Reply Room Unit) :
    moveAnswer (reply.renamed f) = (moveAnswer reply).renamed f := by
  rw [moveAnswer, moveAnswer, Reply.renamed]
  cases reply.answer with
  | error e => exact (refusal_renamed f e).symm
  | ok =>
    simp [Response.renamed, Response.ok, Content.renamed, Json.renamed, Room.snapshot_renamed]

end Service

/-! ## Calls to one room -/

/-- In both lobbies the room `k` is the same, with other names in one of them. -/
structure Lobby.Mirrors (f : String → String) (k : Int) (l l' : Lobby) : Prop where
  newRoom : l'.newRoom = l.newRoom
  room : l'.rooms[k]? = l.rooms[k]?.map (Room.renamed f)

namespace Lobby.Mirrors

variable {f : String → String} {k : Int} {l l' next next' : Lobby} {r : Room}

theorem roomFor (h : l.Mirrors f k l') (mode : Mode) (depth : Option Int) :
    l'.roomFor k mode depth = (l.roomFor k mode depth).renamed f := by
  rw [Lobby.roomFor, Lobby.roomFor, h.room, h.newRoom]
  cases l.rooms[k]? <;> rfl

theorem becomes (h : l.Mirrors f k l') (hnext : l.Becomes k r next)
    (hnext' : l'.Becomes k (r.renamed f) next') : next.Mirrors f k next' where
  newRoom := by rw [hnext'.newRoom_eq, hnext.newRoom_eq, h.newRoom]
  room := by rw [hnext'.here, hnext.here, Option.map_some]

end Lobby.Mirrors

/-- Calls to the room `k`, and those that are refused without a look at any room. -/
inductive Call.Toward (k : Int) : Call → Prop where
  | join {form : JoinForm} : form.room = k → Toward k (.join form)
  | move {form : MoveForm} : form.room = k → Toward k (.move form)
  | state : Toward k (.state k)
  | refused {r : Response} : r.Refuses → Toward k (.refused r)

namespace Service

variable {ids ids' : Nat → String} {f : String → String} {k : Int} {l l' : Lobby} {call : Call}

theorem mirrors_join (h : l.Mirrors f k l') {form : JoinForm} (hroom : form.room = k)
    (hname : admits form.depth = true → f (ids l.issued) = ids' l'.issued) :
    (perform ids' l' (.join form)).response = (perform ids l (.join form)).response.renamed f ∧
      (perform ids l (.join form)).lobby.Mirrors f k (perform ids' l' (.join form)).lobby := by
  subst hroom
  simp only [perform]
  split
  · rename_i hadmits
    have hreply : (l'.roomFor form.room form.mode form.depth).join (ids' l'.issued) =
        ((l.roomFor form.room form.mode form.depth).join (ids l.issued)).renamed f := by
      rw [h.roomFor, ← hname hadmits, Room.join_renamed]
    obtain ⟨next, events, hjoin, hbecomes, -⟩ := join_eq ids l form rfl
    obtain ⟨next', events', hjoin', hbecomes', -⟩ := join_eq ids' l' form hreply
    rw [hjoin, hjoin', ← hname hadmits, joinAnswer_renamed]
    exact ⟨rfl, h.becomes hbecomes hbecomes'⟩
  · exact ⟨(Response.renamed_detail f _ _).symm, h⟩

theorem mirrors_move (hf : Function.Injective f) (h : l.Mirrors f k l') {form : MoveForm}
    (hroom : form.room = k) :
    (move l' { form with player := f form.player }).response = (move l form).response.renamed f ∧
      (move l form).lobby.Mirrors f k (move l' { form with player := f form.player }).lobby := by
  subst hroom
  have hmirror := h.room
  cases hr : l.rooms[form.room]? with
  | none =>
    rw [hr] at hmirror
    obtain ⟨events, hmove⟩ := move_eq_of_unknown form hr
    obtain ⟨events', hmove'⟩ := move_eq_of_unknown
      { form with player := f form.player } hmirror
    rw [hmove, hmove']
    exact ⟨(refusal_renamed f (.rejected (.unknownRoom form.room))).symm, h⟩
  | some r =>
    rw [hr] at hmirror
    obtain ⟨next, events, hmove, hbecomes, -⟩ := move_eq form hr rfl
    obtain ⟨next', events', hmove', hbecomes', -⟩ := move_eq
      { form with player := f form.player } hmirror
      (Room.move_renamed hf r form.player form.square.position)
    rw [hmove, hmove', moveAnswer_renamed]
    exact ⟨rfl, h.becomes hbecomes hbecomes'⟩

theorem mirrors_state (h : l.Mirrors f k l') :
    (state l' k).response = (state l k).response.renamed f ∧
      (state l k).lobby.Mirrors f k (state l' k).lobby := by
  have hmirror := h.room
  cases hr : l.rooms[k]? with
  | none =>
    rw [hr] at hmirror
    obtain ⟨events, hstate⟩ := state_eq_of_unknown hr
    obtain ⟨events', hstate'⟩ := state_eq_of_unknown hmirror
    rw [hstate, hstate']
    exact ⟨(refusal_renamed f (.rejected (.unknownRoom k))).symm, h⟩
  | some r =>
    rw [hr] at hmirror
    rw [state_eq hr, state_eq hmirror, Room.snapshot_renamed]
    refine ⟨?_, h⟩
    simp only [Response.ok, Response.renamed, Content.renamed, renamed_snapshot]

/-- A call to the room is answered alike in both lobbies, and they stay alike. -/
theorem mirrors_perform (hf : Function.Injective f) (h : l.Mirrors f k l') (hcall : call.Toward k)
    (hname : call.takesName = true → f (ids l.issued) = ids' l'.issued) :
    (perform ids' l' (call.renamed f)).response = (perform ids l call).response.renamed f ∧
      (perform ids l call).lobby.Mirrors f k (perform ids' l' (call.renamed f)).lobby := by
  cases hcall with
  | join hroom => exact mirrors_join h hroom hname
  | move hroom => exact mirrors_move hf h hroom
  | state => exact mirrors_state h
  | refused hr => exact ⟨(hr.renamed f).symm, h⟩

end Service
end Reversi
