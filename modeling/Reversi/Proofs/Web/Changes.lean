import Reversi.Proofs.Web.Run

/-!
# Reversi.Proofs.Web.Changes

Which requests change something.

* `Service.moved_of_ok`, `Service.moved`, `Service.shown`: what an answer with the status 200 means.
* `Service.kept_of_not_accepted`, `Service.kept_of_addressee_ne`: a request that is not accepted
  leaves every room as it is, and any request leaves all rooms but one.
* `Service.after_changes`: so readers see the last accepted change.
-/

namespace Reversi
namespace Service

variable {ρ : Type} {F : FrontEnd ρ} {ids : Nat → String} {l : Lobby} {q : ρ} {k : Int}

/-- A disc was placed, and the answer shows the room after it. -/
theorem moved_of_ok {form : MoveForm}
    (hok : (perform ids l (.move form)).response.status = 200) :
    ∃ r, l.rooms[form.room]? = some r ∧
      (r.move form.player form.square.position).answer = .ok () ∧
      (perform ids l (.move form)).response = .ok (.obj [("status", .str "ok"),
        ("state", (r.move form.player form.square.position).state.snapshot.json)]) ∧
      l.Becomes form.room (r.move form.player form.square.position).state
        (perform ids l (.move form)).lobby := by
  rw [perform] at hok ⊢
  cases hr : l.rooms[form.room]? with
  | none =>
    obtain ⟨events, hmove⟩ := move_eq_of_unknown form hr
    rw [hmove] at hok
    exact absurd hok (refusal_status_ne _)
  | some r =>
    obtain ⟨next, events, hmove, hbecomes, -⟩ := move_eq form hr rfl
    rw [hmove, moveAnswer] at hok ⊢
    split at hok
    · rename_i e _
      exact absurd hok (refusal_status_ne e)
    · rename_i hanswer
      exact ⟨r, rfl, hanswer, rfl, hbecomes⟩

theorem moved (h : F.route? q = some .move) (hok : (F.handle ids l q).response.status = 200) :
    ∃ (form : MoveForm) (r : Room), F.addressee? q = some form.room ∧
      l.rooms[form.room]? = some r ∧
      (r.move form.player form.square.position).answer = .ok () ∧
      (F.handle ids l q).response = .ok (.obj [("status", .str "ok"),
        ("state", (r.move form.player form.square.position).state.snapshot.json)]) ∧
      l.Becomes form.room (r.move form.player form.square.position).state
        (F.handle ids l q).lobby := by
  obtain ⟨form, hcall, hroom⟩ := FrontEnd.call_of_move h hok
  rw [FrontEnd.handle, hcall] at hok ⊢
  obtain ⟨r, hr, hmoved⟩ := moved_of_ok hok
  exact ⟨form, r, hroom, hr, hmoved⟩

theorem shown (h : F.route? q = some .state) (hok : (F.handle ids l q).response.status = 200) :
    ∃ (k : Int) (r : Room), F.addressee? q = some k ∧ l.rooms[k]? = some r ∧
      (F.handle ids l q).response = .ok r.snapshot.json := by
  obtain ⟨k, hcall, hroom⟩ := FrontEnd.call_of_state h hok
  rw [FrontEnd.handle, hcall, perform] at hok ⊢
  cases hr : l.rooms[k]? with
  | none =>
    obtain ⟨events, hstate⟩ := state_eq_of_unknown hr
    rw [hstate] at hok
    exact absurd hok (refusal_status_ne _)
  | some r => exact ⟨k, r, hroom, hr, by rw [state_eq hr]⟩

theorem response_of_look {r : Room} (h : F.route? q = some .state) (hk : F.addressee? q = some k)
    (hr : l.rooms[k]? = some r) : (F.handle ids l q).response = .ok r.snapshot.json := by
  rw [FrontEnd.handle, F.looks h hk, perform, state_eq hr]

/-! ## What changes nothing -/

/-- A player who gets no seat leaves no trace, not even a room. -/
theorem join_kept (h : l.Genuine) {form : JoinForm}
    (hno : (perform ids l (.join form)).response.status ≠ 200) (j : Int) :
    (perform ids l (.join form)).lobby.rooms[j]? = l.rooms[j]? := by
  rw [perform] at hno ⊢
  split
  · rename_i hadmits
    obtain ⟨next, events, hjoin, hbecomes, -⟩ := join_eq ids l form rfl
    rw [if_pos hadmits, hjoin] at hno
    rw [hjoin]
    have hrest := (h.roomFor form.room form.mode form.depth).atRest.toRefereed
    rcases Room.join_cases hrest (ids l.issued) with ⟨hfull, hrefused⟩ | ⟨side, _, _, hanswer, _⟩
    · rw [hrefused] at hbecomes
      exact hbecomes.kept (Lobby.rooms_of_full hfull) j
    · rw [joinAnswer, hanswer] at hno
      exact absurd rfl hno
  · rfl

theorem move_kept {form : MoveForm} (hno : (perform ids l (.move form)).response.status ≠ 200)
    (j : Int) : (perform ids l (.move form)).lobby.rooms[j]? = l.rooms[j]? := by
  rw [perform] at hno ⊢
  cases hr : l.rooms[form.room]? with
  | none =>
    obtain ⟨events, hmove⟩ := move_eq_of_unknown form hr
    rw [hmove]
  | some r =>
    obtain ⟨next, events, hmove, hbecomes, -⟩ := move_eq form hr rfl
    rw [hmove] at hno ⊢
    rcases Room.move_cases r form.player form.square.position with
      ⟨_, _, hrefused⟩ | ⟨_, _, _, hrefused⟩ | ⟨_, _, _, _, _, hanswer, _⟩
    · rw [hrefused] at hbecomes
      exact hbecomes.kept hr j
    · rw [hrefused] at hbecomes
      exact hbecomes.kept hr j
    · rw [moveAnswer, hanswer] at hno
      exact absurd rfl hno

theorem kept_of_not_accepted (h : l.Genuine)
    (hno : ¬ F.Accepted q (F.handle ids l q).response) (j : Int) :
    (F.handle ids l q).lobby.rooms[j]? = l.rooms[j]? := by
  rw [FrontEnd.handle] at hno ⊢
  cases hcall : F.call q with
  | join form =>
    rw [hcall] at hno
    have hroute := (FrontEnd.route?_of_call_join hcall).1
    exact join_kept h (fun hok => hno ⟨.inl hroute, hok⟩) j
  | move form =>
    rw [hcall] at hno
    have hroute := (FrontEnd.route?_of_call_move hcall).1
    exact move_kept (fun hok => hno ⟨.inr hroute, hok⟩) j
  | state =>
    rw [perform, state]
    split
    · rfl
    · cases refuse_eq l [] _ _ with
      | intro events hrefuse => rw [hrefuse]
  | refused | page | health | fixed => rfl

theorem kept_of_addressee_ne (hq : F.addressee? q ≠ some k) :
    (F.handle ids l q).lobby.rooms[k]? = l.rooms[k]? := by
  have heffect := effect_perform ids l (F.call q)
  rw [FrontEnd.handle]
  generalize (perform ids l (F.call q)).lobby = next at heffect ⊢
  generalize hcall : F.call q = call at heffect
  cases heffect with
  | quiet => rfl
  | joined _ hbecomes =>
    refine hbecomes.elsewhere k fun hk => hq ?_
    exact hk ▸ (FrontEnd.route?_of_call_join hcall).2
  | moved _ hbecomes =>
    refine hbecomes.elsewhere k fun hk => hq ?_
    exact hk ▸ (FrontEnd.route?_of_call_move hcall).2

theorem addressee?_of_accepted (h : F.Accepted q (F.handle ids l q).response) :
    ∃ k, F.addressee? q = some k := by
  obtain ⟨hroute, hok⟩ := h
  rcases hroute with hroute | hroute
  · obtain ⟨form, -, hroom⟩ := FrontEnd.call_of_join hroute hok
    exact ⟨form.room, hroom⟩
  · obtain ⟨form, -, hroom⟩ := FrontEnd.call_of_move hroute hok
    exact ⟨form.room, hroom⟩

theorem kept_after (h : l.Genuine) {later : List ρ}
    (hlater : ∀ x ∈ F.transcript ids l later, F.addressee? x.1 = some k → ¬ F.Accepted x.1 x.2) :
    (F.after ids l later).rooms[k]? = l.rooms[k]? := by
  induction later generalizing l with
  | nil => rfl
  | cons q later ih =>
    rw [FrontEnd.transcript, List.forall_mem_cons] at hlater
    have hfirst : (F.handle ids l q).lobby.rooms[k]? = l.rooms[k]? := by
      by_cases hq : F.Accepted q (F.handle ids l q).response
      · exact kept_of_addressee_ne fun hk => hlater.1 hk hq
      · exact kept_of_not_accepted h hq k
    exact (ih (genuine_handle h q) hlater.2).trans hfirst

/-- At any time during a run, a request that is not accepted changes no room and makes none, and
one that is accepted changes the room that it names and no other. What the answer to a placement
shows is the room after it, and what everybody sees who looks at the room, until the next request
that is accepted there. -/
theorem after_changes (F : FrontEnd ρ) (ids : Nat → String) (depth : Int) (setup : Engine.Setup)
    (before : List ρ) (q : ρ) :
    let l := F.after ids (.empty depth setup) before
    let answer := (F.handle ids l q).response
    let next := (F.handle ids l q).lobby
    (¬ F.Accepted q answer →
        (∀ j : Int, next.rooms[j]? = l.rooms[j]?) ∧ next.size = l.size) ∧
      (F.Accepted q answer →
        ∃ k, F.addressee? q = some k ∧ ∀ j : Int, j ≠ k → next.rooms[j]? = l.rooms[j]?) ∧
      ∀ k, F.addressee? q = some k → F.route? q = some .move → answer.status = 200 →
        ∃ r, next.rooms[k]? = some r ∧
          answer = .ok (.obj [("status", .str "ok"), ("state", r.snapshot.json)]) ∧
          ∀ later look,
            (∀ x ∈ F.transcript ids next later,
              F.addressee? x.1 = some k → ¬ F.Accepted x.1 x.2) →
            F.route? look = some .state → F.addressee? look = some k →
            (F.handle ids (F.after ids next later) look).response = .ok r.snapshot.json := by
  intro l answer next
  have h : l.Genuine := genuine_after (.empty depth setup) before
  refine ⟨fun hno => ?_, fun hyes => ?_, fun k hk hroute hok => ?_⟩
  · have hkept := kept_of_not_accepted h hno
    exact ⟨hkept, (Std.HashMap.Equiv.of_forall_getElem?_eq hkept).size_eq⟩
  · obtain ⟨k, hk⟩ := addressee?_of_accepted hyes
    refine ⟨k, hk, fun j hj => kept_of_addressee_ne fun heq => hj ?_⟩
    exact Option.some.inj (heq.symm.trans hk)
  · obtain ⟨form, r, hroom, -, -, hanswer, hbecomes⟩ := moved hroute hok
    obtain rfl : k = form.room := Option.some.inj (hk.symm.trans hroom)
    refine ⟨_, hbecomes.here, hanswer, fun later look hlater hlook hseen => ?_⟩
    have hnext : next.Genuine := genuine_handle h q
    exact response_of_look hlook hseen ((kept_after hnext hlater).trans hbecomes.here)

end Service
end Reversi
