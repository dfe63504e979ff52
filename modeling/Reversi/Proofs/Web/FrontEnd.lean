import Reversi.Proofs.Web.Renaming
import Reversi.Web.Service

/-!
# Reversi.Proofs.Web.FrontEnd

What stands between requests and the service. A front end refuses a request, or it hands over the
fields that the route of the request needs; it looks at no room.

* `FrontEnd`: how requests of some kind are read, and all that is relied on.
* `FrontEnd.http`: the requests of this service.
* `FrontEnd.handle`, `FrontEnd.after`, `FrontEnd.transcript`: runs of the service.
* `FrontEnd.Accepted`: the requests that change something.
-/

namespace Reversi

/-- The answer to a request that is not served: no success, and nobody's name. -/
structure Response.Refuses (r : Response) : Prop where
  status_ne : r.status ≠ 200
  renamed : ∀ f, r.renamed f = r

theorem Response.Complains.refuses {r : Response} (h : r.Complains) : r.Refuses :=
  ⟨h.status_ne, fun f => h.renamed f⟩

/-- What a request asks for is told by the request alone, whatever happens in the rooms. -/
structure FrontEnd (ρ : Type) where
  call : ρ → Call
  /-- The route that a request is for, if it comes with a method that the route takes. -/
  route? : ρ → Option Route
  /-- The room that a request is addressed to, whatever its method. -/
  addressee? : ρ → Option Int
  /-- The same request from a player with another name. -/
  Renamed : (String → String) → ρ → ρ → Prop
  reads : ∀ q, (∃ route, route? q = some route ∧ (call q).Serves route (addressee? q)) ∨
    ∃ r, call q = .refused r ∧ r.Refuses
  looks : ∀ {q k}, route? q = some .state → addressee? q = some k → call q = .state k
  call_renamed : ∀ {f q q'}, (∀ s, f s = "" ↔ s = "") → Renamed f q q' →
    call q' = (call q).renamed f
  exists_renamed : ∀ {f}, (∀ s, f s = "" ↔ s = "") → ∀ q, ∃ q', Renamed f q q'

namespace FrontEnd

def http : FrontEnd Request where
  call := Call.ofRequest
  route? := Request.route?
  addressee? := Request.addressee?
  Renamed := Request.Renamed
  reads q := (Call.ofRequest_cases q).imp_right fun ⟨r, hcall, hr⟩ => ⟨r, hcall, hr.refuses⟩
  looks := Call.ofRequest_state
  call_renamed hf h := h.call_eq hf
  exists_renamed := Request.exists_renamed

theorem http_call (q : Request) : http.call q = Call.ofRequest q := rfl

variable {ρ : Type} (F : FrontEnd ρ)

def handle (ids : Nat → String) (l : Lobby) (q : ρ) : Exchange :=
  Service.perform ids l (F.call q)

theorem handle_http : http.handle = Service.handle := rfl

/-- The lobby after requests. -/
def after (ids : Nat → String) (l : Lobby) (requests : List ρ) : Lobby :=
  requests.foldl (fun l q => (F.handle ids l q).lobby) l

/-- The requests with their answers, in order. -/
def transcript (ids : Nat → String) : Lobby → List ρ → List (ρ × Response)
  | _, [] => []
  | l, q :: requests =>
    (q, (F.handle ids l q).response) :: transcript ids (F.handle ids l q).lobby requests

/-- A seat was given or a disc was placed. -/
def Accepted (q : ρ) (answer : Response) : Prop :=
  (F.route? q = some .join ∨ F.route? q = some .move) ∧ answer.status = 200

variable {F} {ids : Nat → String} {l : Lobby} {q : ρ}

theorem serves_of_route? {route : Route} (h : F.route? q = some route) :
    (F.call q).Serves route (F.addressee? q) ∨ ∃ r, F.call q = .refused r ∧ r.Refuses := by
  refine (F.reads q).imp_left fun ⟨route', hroute', hserves⟩ => ?_
  cases h.symm.trans hroute'
  exact hserves

theorem serves_of_ok {route : Route} (h : F.route? q = some route)
    (hok : (F.handle ids l q).response.status = 200) :
    (F.call q).Serves route (F.addressee? q) := by
  refine (serves_of_route? h).resolve_right fun ⟨r, hcall, hr⟩ => ?_
  rw [handle, hcall] at hok
  exact hr.status_ne hok

theorem call_of_join (h : F.route? q = some .join)
    (hok : (F.handle ids l q).response.status = 200) :
    ∃ form, F.call q = .join form ∧ F.addressee? q = some form.room :=
  (serves_of_ok h hok).join_inv

theorem call_of_move (h : F.route? q = some .move)
    (hok : (F.handle ids l q).response.status = 200) :
    ∃ form, F.call q = .move form ∧ F.addressee? q = some form.room :=
  (serves_of_ok h hok).move_inv

theorem call_of_state (h : F.route? q = some .state)
    (hok : (F.handle ids l q).response.status = 200) :
    ∃ k, F.call q = .state k ∧ F.addressee? q = some k :=
  (serves_of_ok h hok).state_inv

theorem serves_of_call {call : Call} (h : F.call q = call) (hno : ∀ r, call ≠ .refused r) :
    ∃ route, F.route? q = some route ∧ call.Serves route (F.addressee? q) := by
  subst h
  exact (F.reads q).resolve_right fun ⟨r, hcall, _⟩ => hno r hcall

theorem route?_of_call_join {form : JoinForm} (h : F.call q = .join form) :
    F.route? q = some .join ∧ F.addressee? q = some form.room := by
  obtain ⟨route, hroute, hserves⟩ := serves_of_call h fun _ => Call.noConfusion
  generalize F.addressee? q = k at hserves ⊢
  cases hserves
  exact ⟨hroute, rfl⟩

theorem route?_of_call_move {form : MoveForm} (h : F.call q = .move form) :
    F.route? q = some .move ∧ F.addressee? q = some form.room := by
  obtain ⟨route, hroute, hserves⟩ := serves_of_call h fun _ => Call.noConfusion
  generalize F.addressee? q = k at hserves ⊢
  cases hserves
  exact ⟨hroute, rfl⟩

end FrontEnd
end Reversi
