import Reversi.Web.Call

/-!
# Reversi.Proofs.Web.Requests

What requests ask for, told by their method, their path and their room.

* `Request.route?`: the route of a request; `Request.addressee?`: the room that it is for.
* `Response.Complains`: the answers to requests that are not well formed; `Complains.status_ne`.
* `Call.Serves`: which call a request for a route makes; `Call.ofRequest_cases`.
-/

namespace Reversi

/-- The route that a request is for, if it takes the method. Methods may be written in small
letters. -/
def Request.route? (q : Request) : Option Route :=
  (Route.ofPath? q.target.path).filter fun route =>
    (route.methods.map Text.glyphs).contains (Text.upper q.method)

/-- The room that a request is addressed to, whatever its method. -/
def Request.addressee? (q : Request) : Option Int :=
  match Route.ofPath? q.target.path with
  | some .join | some .move | some .state => q.room.toOption
  | _ => none

inductive Response.Complains : Response → Prop where
  | report (items : List Complaint) : Complains (report items)
  | invalid (items : List Complaint) : Complains (invalid items)
  | unreadableBody : Complains unreadableBody
  | notFound (method : List Glyph) : Complains (notFound.toMethod method)
  | redirect (method : List Glyph) : Complains (redirect.toMethod method)
  | methodNotAllowed (method : List Glyph) : Complains (methodNotAllowed.toMethod method)

theorem Response.toMethod_status (method : List Glyph) (r : Response) :
    (r.toMethod method).status = r.status := by
  obtain ⟨status, content⟩ := r
  rw [toMethod]
  split
  · cases content <;> rfl
  · rfl

theorem Response.Complains.status_ne {r : Response} (h : r.Complains) : r.status ≠ 200 := by
  cases h with
  | report items =>
    rw [Response.report]
    split <;> simp [Response.invalid, internalError]
  | invalid items => simp [Response.invalid]
  | unreadableBody => simp [Response.unreadableBody, detail]
  | notFound => simp [toMethod_status, Response.notFound, detail]
  | redirect => simp [toMethod_status, Response.redirect]
  | methodNotAllowed => simp [toMethod_status, Response.methodNotAllowed, detail]

theorem Checked.both_eq_ok_iff {α β : Type} {x : Checked α} {y : Checked β} {a : α} {b : β} :
    Checked.both x y = .ok (a, b) ↔ x = .ok a ∧ y = .ok b := by
  cases x <;> cases y <;> simp [Checked.both]

theorem Checked.ok_of_map_both {α β γ : Type} {x : Checked α} {y : Checked β} {f : α × β → γ}
    {c : γ} (h : (Checked.both x y).map f = .ok c) :
    ∃ a b, x = .ok a ∧ y = .ok b ∧ f (a, b) = c := by
  cases x <;> cases y <;> simp_all [Checked.both, Except.map]

theorem JoinForm.room_eq {q : Request} {form : JoinForm} (h : JoinForm.ofRequest q = .ok form) :
    q.room = .ok form.room := by
  obtain ⟨room, _, hroom, -, rfl⟩ := Checked.ok_of_map_both h
  exact hroom

theorem MoveForm.room_eq {q : Request} {body : Option Datum} {form : MoveForm}
    (h : MoveForm.ofRequest q body = .ok form) : q.room = .ok form.room := by
  obtain ⟨room, _, hroom, -, rfl⟩ := Checked.ok_of_map_both h
  exact hroom

theorem Field.playerName_ne {x : Datum} {player : String} (h : playerName x = .ok player) :
    player ≠ "" := by
  cases x with
  | text gs =>
    rw [playerName] at h
    split at h
    · rename_i s _
      split at h
      · cases h
      · rename_i hne
        cases h
        rwa [String.isEmpty_iff] at hne
    · cases h
  | _ => cases h

theorem Field.named_ok {α : Type} {members : List (List Glyph × Datum)} {short long : String}
    {read : Datum → Except ComplaintKind α} {a : α}
    (h : named members short long read = .ok a) : ∃ x, read x = .ok a := by
  simp only [named] at h
  split at h
  · rename_i x _
    cases hread : read x with
    | error k =>
      rw [hread] at h
      cases h
    | ok b =>
      rw [hread] at h
      cases h
      exact ⟨x, hread⟩
  · split at h
    · rename_i x _
      cases hread : read x with
      | error k =>
        rw [hread] at h
        cases h
      | ok b =>
        rw [hread] at h
        cases h
        exact ⟨x, hread⟩
    · cases h

theorem MoveForm.player_ne {q : Request} {body : Option Datum} {form : MoveForm}
    (h : MoveForm.ofRequest q body = .ok form) : form.player ≠ "" := by
  obtain ⟨_, ⟨square, player⟩, -, hplacement, rfl⟩ := Checked.ok_of_map_both h
  split at hplacement
  · cases hplacement
  · obtain ⟨_, ⟨_, name⟩, -, hrest, heq⟩ := Checked.ok_of_map_both hplacement
    obtain ⟨x, hx⟩ := Field.named_ok (Checked.both_eq_ok_iff.1 hrest).2
    cases heq
    exact Field.playerName_ne hx

namespace Call

theorem complains_of_readBody {body : Option String} {r : Response}
    (h : readBody body = .error r) : r.Complains := by
  simp only [readBody] at h
  split at h
  · cases h
  · split at h
    · cases h
    · split at h
      · cases h
      · cases h
        exact .invalid _
      · cases h
        exact .unreadableBody

theorem ofRoute_join (q : Request) :
    (∃ form, ofRoute q .join = .join form ∧ q.room = .ok form.room) ∨
      ∃ r, ofRoute q .join = .refused r ∧ r.Complains := by
  rw [ofRoute]
  cases hform : JoinForm.ofRequest q with
  | error items => exact .inr ⟨_, rfl, .report items⟩
  | ok form => exact .inl ⟨form, rfl, JoinForm.room_eq hform⟩

theorem ofRoute_move (q : Request) :
    (∃ form, ofRoute q .move = .move form ∧ q.room = .ok form.room ∧ form.player ≠ "") ∨
      ∃ r, ofRoute q .move = .refused r ∧ r.Complains := by
  rw [ofRoute]
  cases hbody : readBody q.body with
  | error r => exact .inr ⟨r, rfl, complains_of_readBody hbody⟩
  | ok body =>
    simp only
    cases hform : MoveForm.ofRequest q body with
    | error items => exact .inr ⟨_, rfl, .report items⟩
    | ok form => exact .inl ⟨form, rfl, MoveForm.room_eq hform, MoveForm.player_ne hform⟩

theorem ofRoute_state (q : Request) :
    (∃ room, ofRoute q .state = .state room ∧ q.room = .ok room) ∨
      ∃ r, ofRoute q .state = .refused r ∧ r.Complains := by
  rw [ofRoute]
  cases hroom : q.room with
  | error items => exact .inr ⟨_, rfl, .report items⟩
  | ok room => exact .inl ⟨room, rfl, rfl⟩

theorem ofRequest_of_route? {q : Request} {route : Route} (h : q.route? = some route) :
    ofRequest q = ofRoute q route := by
  obtain ⟨hroute, hmethod⟩ := Option.filter_eq_some_iff.1 h
  simp only [ofRequest, hroute, hmethod, if_true]

/-- The call that is made of a request for a route which is addressed to a room, or to none. -/
inductive Serves : Route → Option Int → Call → Prop where
  | page : Serves .page none .page
  | health : Serves .health none .health
  | join {form : JoinForm} : Serves .join (some form.room) (.join form)
  | move {form : MoveForm} : form.player ≠ "" → Serves .move (some form.room) (.move form)
  | state {k : Int} : Serves .state (some k) (.state k)
  | fixed {asked : Reference} {r : Response} : Serves (.reference asked) none (.fixed r)

theorem Serves.join_inv {k : Option Int} {call : Call} (h : call.Serves .join k) :
    ∃ form, call = .join form ∧ k = some form.room := by
  cases h
  exact ⟨_, rfl, rfl⟩

theorem Serves.move_inv {k : Option Int} {call : Call} (h : call.Serves .move k) :
    ∃ form, call = .move form ∧ k = some form.room := by
  cases h
  exact ⟨_, rfl, rfl⟩

theorem Serves.state_inv {k : Option Int} {call : Call} (h : call.Serves .state k) :
    ∃ j, call = .state j ∧ k = some j := by
  cases h
  exact ⟨_, rfl, rfl⟩

theorem ofRoute_cases {q : Request} {route : Route} (h : Route.ofPath? q.target.path = some route) :
    (ofRoute q route).Serves route q.addressee? ∨
      ∃ r, ofRoute q route = .refused r ∧ r.Complains := by
  rw [Request.addressee?, h]
  cases route with
  | page => exact .inl .page
  | health => exact .inl .health
  | reference asked => exact .inl .fixed
  | join =>
    refine (ofRoute_join q).imp_left fun ⟨form, hcall, hroom⟩ => ?_
    rw [hcall, hroom]
    exact .join
  | move =>
    refine (ofRoute_move q).imp_left fun ⟨form, hcall, hroom, hplayer⟩ => ?_
    rw [hcall, hroom]
    exact .move hplayer
  | state =>
    refine (ofRoute_state q).imp_left fun ⟨room, hcall, hroom⟩ => ?_
    rw [hcall, hroom]
    exact .state

theorem ofRequest_cases (q : Request) :
    (∃ route, q.route? = some route ∧ (ofRequest q).Serves route q.addressee?) ∨
      ∃ r, ofRequest q = .refused r ∧ r.Complains := by
  cases hpath : Route.ofPath? q.target.path with
  | none =>
    simp only [ofRequest, hpath]
    split
    · exact .inr ⟨_, rfl, .redirect _⟩
    · exact .inr ⟨_, rfl, .notFound _⟩
  | some route =>
    cases hmethod : (route.methods.map Text.glyphs).contains (Text.upper q.method) with
    | false =>
      simp only [ofRequest, hpath, hmethod]
      exact .inr ⟨_, rfl, .methodNotAllowed _⟩
    | true =>
      have hroute : q.route? = some route := Option.filter_eq_some_iff.2 ⟨hpath, hmethod⟩
      rw [ofRequest_of_route? hroute]
      exact (ofRoute_cases hpath).imp_left fun hserves => ⟨route, hroute, hserves⟩

/-- A look at a room is understood as soon as the room is. -/
theorem ofRequest_state {q : Request} {k : Int} (h : q.route? = some .state)
    (hk : q.addressee? = some k) : ofRequest q = .state k := by
  have hpath := (Option.filter_eq_some_iff.1 h).1
  rw [ofRequest_of_route? h]
  rw [Request.addressee?, hpath] at hk
  rcases ofRoute_state q with ⟨room, hcall, hroom⟩ | ⟨r, hcall, -⟩
  · rw [hroom] at hk
    cases hk
    exact hcall
  · rw [ofRoute] at hcall
    cases hroom : q.room with
    | error items =>
      rw [hroom] at hk
      cases hk
    | ok room =>
      rw [hroom] at hcall
      cases hcall

end Call
end Reversi
