import Mathlib.Data.Set.Card
import Reversi.Lobby
import Reversi.Proofs.Room.Forward

/-!
# Reversi.Proofs.Lobby

Rooms are made once and keep their first configuration.

* `Lobby.Becomes`: one room has changed, and no other.
* `Lobby.roomFor`: the room that is found or made; `Lobby.findOrCreate_eq`, `Lobby.join_eq`.
* `Lobby.Means`: how a mode may be written; `Lobby.Request.Opens`: the requests that make a room.
* `Lobby.serve`, `Lobby.after`: runs of a lobby, with placements in its rooms in between.
* `Lobby.Finds`: the room that a request finds, or makes; `Lobby.serve_finds`, `Lobby.serve_closed`.
* `Lobby.after_keeps_first`: which rooms there are after a run, and how they are configured.
-/

namespace Reversi
namespace Lobby

/-- The room `k` is now `r`. All others are as they were. -/
structure Becomes (l : Lobby) (k : Int) (r : Room) (next : Lobby) : Prop where
  depth : next.depth = l.depth
  setup : next.setup = l.setup
  here : next.rooms[k]? = some r
  elsewhere : ∀ j, j ≠ k → next.rooms[j]? = l.rooms[j]?

/-- The room that a player finds who asks for a seat, and who may have to be the first there. -/
def roomFor (l : Lobby) (k : Int) (mode : Mode) (depth : Option Int) : Room :=
  (l.rooms[k]?).getD (l.newRoom k mode depth)

variable {ids : Nat → String} {l next : Lobby} {k : Int} {r : Room} {m : Mode}

theorem becomes_put (l : Lobby) (k : Int) (r : Room) : l.Becomes k r (l.put k r) where
  depth := rfl
  setup := rfl
  here := by simp [put]
  elsewhere j hj := by simp [put, Std.HashMap.getElem?_insert, Ne.symm hj]

theorem Becomes.newRoom_eq {l next : Lobby} {k : Int} {r : Room} (h : l.Becomes k r next) :
    next.newRoom = l.newRoom := by
  funext k mode depth
  rw [newRoom, newRoom, depthOf.eq_def, depthOf.eq_def, h.depth, h.setup]

theorem Becomes.found {l next : Lobby} {j k : Int} {r r' : Room} (h : l.Becomes k r next)
    (hr' : next.rooms[j]? = some r') : (j = k ∧ r' = r) ∨ l.rooms[j]? = some r' := by
  by_cases hj : j = k
  · rw [hj, h.here] at hr'
    exact .inl ⟨hj, (Option.some.inj hr').symm⟩
  · rw [h.elsewhere j hj] at hr'
    exact .inr hr'

theorem Becomes.kept {l next : Lobby} {k : Int} {r : Room} (h : l.Becomes k r next)
    (hr : l.rooms[k]? = some r) (j : Int) : next.rooms[j]? = l.rooms[j]? := by
  by_cases hj : j = k
  · rw [hj, h.here, hr]
  · exact h.elsewhere j hj

theorem rooms_of_full {l : Lobby} {k : Int} {mode : Mode} {depth : Option Int}
    (h : (l.roomFor k mode depth).openSeats = []) :
    l.rooms[k]? = some (l.roomFor k mode depth) := by
  rw [roomFor] at h ⊢
  cases hr : l.rooms[k]? with
  | some r => rfl
  | none =>
    rw [hr] at h
    cases mode <;> cases h

/-! ## Finding, making and joining rooms -/

/-- The mode counts only if the room is new. -/
theorem findOrCreate_eq {mode : Option Datum} (hmode : l.rooms[k]? = none → modeOf mode = .ok m)
    (depth : Option Int) :
    ∃ made events, l.findOrCreate k mode depth = ⟨made, events, .ok (l.roomFor k m depth)⟩ ∧
      l.Becomes k (l.roomFor k m depth) made ∧ made.issued = l.issued := by
  rw [findOrCreate, roomFor]
  cases hr : l.rooms[k]? with
  | some r => exact ⟨l, [], rfl, ⟨rfl, rfl, hr, fun _ _ => rfl⟩, rfl⟩
  | none =>
    simp only [hmode hr]
    exact ⟨_, _, rfl, l.becomes_put k _, rfl⟩

theorem join_eq (ids : Nat → String) {mode : Option Datum}
    (hmode : l.rooms[k]? = none → modeOf mode = .ok m) (depth : Option Int) :
    ∃ next events, l.join ids k mode depth =
        ⟨next, events, ((l.roomFor k m depth).join (ids l.issued)).answer.map
          fun side => ⟨ids l.issued, side⟩⟩ ∧
      l.Becomes k ((l.roomFor k m depth).join (ids l.issued)).state next ∧
      next.issued = l.issued + 1 := by
  obtain ⟨made, events, hmade, hbecomes, hissued⟩ := findOrCreate_eq hmode depth
  obtain ⟨hdepth, hsetup, hhere, helse⟩ :=
    made.becomes_put k ((l.roomFor k m depth).join (ids l.issued)).state
  simp only [Lobby.join, hmade, hissued]
  refine ⟨_, _, rfl,
    ⟨hdepth.trans hbecomes.depth, hsetup.trans hbecomes.setup, hhere, fun j hj => ?_⟩, rfl⟩
  exact (helse j hj).trans (hbecomes.elsewhere j hj)

theorem refused_of_modeOf (ids : Nat → String) {mode : Option Datum} {u : Unrecognized}
    (hr : l.rooms[k]? = none) (hmode : modeOf mode = .error u) (depth : Option Int) :
    l.findOrCreate k mode depth = ⟨l, [], .error (.unrecognized u)⟩ ∧
      l.join ids k mode depth = ⟨l, [], .error (.unrecognized u)⟩ := by
  simp [Lobby.join, findOrCreate, hr, hmode]

theorem within_becomes {α : Type} (hr : l.rooms[k]? = some r) (request : Room → Reply Room α) :
    l.Becomes k (request r).state (l.within k request).state := by
  simp only [within, find, hr]
  exact l.becomes_put k _

theorem within_unknown {α : Type} (hr : l.rooms[k]? = none) (request : Room → Reply Room α) :
    (l.within k request).state = l := by
  simp only [within, find, hr]

/-! ## Modes -/

theorem modeOf_word (mode : Mode) : modeOf (some (.ofString mode.word)) = .ok mode := by
  cases mode <;> decide

/-- How a mode may be written. Nothing, and a text that says nothing, is for people. -/
inductive Means : Option (List Glyph) → Mode → Prop where
  | absent : Means none .people
  | blank : Means (some []) .people
  | people : Means (some (Text.glyphs "pvp")) .people
  | engine : Means (some (Text.glyphs "ai")) .engine

theorem Means.word (mode : Mode) : Means (some (Text.glyphs mode.word)) mode := by
  cases mode with
  | people => exact .people
  | engine => exact .engine

theorem word_of_ofWord? {word : String} (h : Mode.ofWord? word = some m) : word = m.word := by
  rw [Mode.ofWord?] at h
  split at h
  · rename_i hpeople
    cases h
    exact hpeople
  · split at h
    · rename_i hengine
      cases h
      exact hengine
    · cases h

theorem modeOf_eq_ok_iff {mode : Option (List Glyph)} :
    modeOf (mode.map .text) = .ok m ↔ Means mode m := by
  constructor
  · intro h
    match mode with
    | none =>
      cases h
      exact .absent
    | some [] =>
      cases h
      exact .blank
    | some (g :: gs) =>
      simp only [Option.map_some, modeOf, Datum.isEmpty, List.isEmpty_cons, Bool.false_eq_true,
        if_false, Mode.ofDatum, Datum.string?] at h
      split at h
      · rename_i hword
        cases h
        obtain ⟨w, hw, hm⟩ := Option.bind_eq_some_iff.1 hword
        rw [Text.string?_eq_some_iff.1 hw, word_of_ofWord? hm]
        exact .word m
      · cases h
  · intro h
    cases h with
    | absent | blank => rfl
    | people => exact modeOf_word .people
    | engine => exact modeOf_word .engine

theorem modeOf_eq_error_iff {mode : Option (List Glyph)} :
    (∃ u, modeOf (mode.map .text) = .error u) ↔ ∀ m, ¬ Means mode m := by
  cases hmode : modeOf (mode.map .text) with
  | ok m => simpa using ⟨m, modeOf_eq_ok_iff.1 hmode⟩
  | error u =>
    simp only [Except.error.injEq, exists_eq', true_iff]
    intro m hm
    rw [modeOf_eq_ok_iff.2 hm] at hmode
    cases hmode

theorem means_or_unknown (l : Lobby) (k : Int) (mode : Option (List Glyph)) :
    (∃ m, l.rooms[k]? = none → Means mode m) ∨ (l.rooms[k]? = none ∧ ∀ m, ¬ Means mode m) := by
  by_cases hr : l.rooms[k]? = none
  · by_cases hmode : ∃ m, Means mode m
    · obtain ⟨m, hm⟩ := hmode
      exact .inl ⟨m, fun _ => hm⟩
    · exact .inr ⟨hr, not_exists.1 hmode⟩
  · exact .inl ⟨.people, fun h => absurd h hr⟩

theorem Means.unique {mode : Option (List Glyph)} {m m' : Mode} (h : Means mode m)
    (h' : Means mode m') : m = m' := by
  have hsame := (modeOf_eq_ok_iff.2 h).symm.trans (modeOf_eq_ok_iff.2 h')
  injection hsame

/-! ## Requests -/

/-- Requests to a lobby, and to a room by somebody who has found it. -/
inductive Request where
  | find (room : Int)
  | create (room : Int) (mode : Option (List Glyph)) (depth : Option Int)
  | join (room : Int) (mode : Option (List Glyph)) (depth : Option Int)
  | play (room : Int) (request : Room.Request)

def Request.room : Request → Int
  | .find k => k
  | .create k _ _ => k
  | .join k _ _ => k
  | .play k _ => k

/-- The lobby after a request, whatever the answer. -/
def serve (ids : Nat → String) (l : Lobby) : Request → Lobby
  | .find _ => l
  | .create k mode depth => (l.findOrCreate k (mode.map .text) depth).state
  | .join k mode depth => (l.join ids k (mode.map .text) depth).state
  | .play k (.join player) => (l.within k fun r => r.join player).state
  | .play k (.move player p) => (l.within k fun r => r.move player p).state
  | .play _ .look => l

/-- The request makes the room `k`, if it is not there yet. -/
inductive Request.Opens : Request → Int → Mode → Option Int → Prop where
  | create {k : Int} {mode : Option (List Glyph)} {m : Mode} {depth : Option Int} :
      Means mode m → Opens (.create k mode depth) k m depth
  | join {k : Int} {mode : Option (List Glyph)} {m : Mode} {depth : Option Int} :
      Means mode m → Opens (.join k mode depth) k m depth

/-- What the room `k`, if it is there, is asked for in the course of a request to the lobby. -/
def passedOn (ids : Nat → String) (l : Lobby) (k : Int) : Request → List Room.Request
  | .join j _ _ => if j = k then [.join (ids l.issued)] else []
  | .play j q => if j = k then [q] else []
  | _ => []

/-- The room `k` as the request finds it, or makes it. -/
inductive Finds (l : Lobby) (k : Int) (q : Request) : Room → Prop where
  | known {r : Room} : l.rooms[k]? = some r → Finds l k q r
  | new {m : Mode} {depth : Option Int} : l.rooms[k]? = none → q.Opens k m depth →
      Finds l k q (l.newRoom k m depth)

variable {q : Request} {requests : List Request} {depth : Option Int}

theorem Request.Opens.room_eq (h : q.Opens k m depth) : q.room = k := by
  cases h <;> rfl

theorem passedOn_elsewhere (h : q.room ≠ k) : passedOn ids l k q = [] := by
  cases q with
  | join j mode depth => exact if_neg h
  | play j q => exact if_neg h
  | find | create => rfl

theorem finds_roomFor (hq : l.rooms[k]? = none → q.Opens k m depth) :
    Finds l k q (l.roomFor k m depth) := by
  rw [roomFor]
  cases hr : l.rooms[k]? with
  | some r => exact .known hr
  | none => exact .new hr (hq hr)

theorem Finds.unique {r' : Room} (h : Finds l k q r) (h' : Finds l k q r') : r = r' := by
  cases h with
  | known hr =>
    cases h' with
    | known hr' =>
      rw [hr] at hr'
      injection hr'
    | new hr' _ =>
      rw [hr] at hr'
      cases hr'
  | new hr hopens =>
    cases h' with
    | known hr' =>
      rw [hr] at hr'
      cases hr'
    | new _ hopens' =>
      cases hopens with
      | create hm =>
        cases hopens' with
        | create hm' => rw [hm.unique hm']
      | join hm =>
        cases hopens' with
        | join hm' => rw [hm.unique hm']

/-- The room of the request is found or made, and goes on by what it is asked for; or there is no
such room, and none is made. -/
theorem serve_becomes (ids : Nat → String) (l : Lobby) (q : Request) :
    (∃ r, Finds l q.room q r ∧
        l.Becomes q.room (r.after (passedOn ids l q.room q)) (serve ids l q)) ∨
      (l.rooms[q.room]? = none ∧ (∀ m depth, ¬ q.Opens q.room m depth) ∧ serve ids l q = l) := by
  cases q with
  | find k =>
    cases hr : l.rooms[k]? with
    | some r => exact .inl ⟨r, .known hr, rfl, rfl, hr, fun _ _ => rfl⟩
    | none => exact .inr ⟨hr, fun m depth hopens => (by cases hopens), rfl⟩
  | create k mode depth =>
    rcases means_or_unknown l k mode with ⟨m, hm⟩ | ⟨hr, hmode⟩
    · obtain ⟨made, events, hmade, hbecomes, -⟩ :=
        findOrCreate_eq (fun hr => modeOf_eq_ok_iff.2 (hm hr)) depth
      refine .inl ⟨_, finds_roomFor fun hr => .create (hm hr), ?_⟩
      rw [serve, hmade]
      exact hbecomes
    · obtain ⟨u, hu⟩ := modeOf_eq_error_iff.2 hmode
      refine .inr ⟨hr, fun m depth hopens => ?_, ?_⟩
      · cases hopens with
        | create hm => exact hmode m hm
      · rw [serve, (refused_of_modeOf ids hr hu depth).1]
  | join k mode depth =>
    rcases means_or_unknown l k mode with ⟨m, hm⟩ | ⟨hr, hmode⟩
    · obtain ⟨next, events, hjoin, hbecomes, -⟩ :=
        join_eq ids (fun hr => modeOf_eq_ok_iff.2 (hm hr)) depth
      refine .inl ⟨_, finds_roomFor fun hr => .join (hm hr), ?_⟩
      rw [serve, hjoin, passedOn, Request.room, if_pos rfl]
      exact hbecomes
    · obtain ⟨u, hu⟩ := modeOf_eq_error_iff.2 hmode
      refine .inr ⟨hr, fun m depth hopens => ?_, ?_⟩
      · cases hopens with
        | join hm => exact hmode m hm
      · rw [serve, (refused_of_modeOf ids hr hu depth).2]
  | play k q =>
    cases hr : l.rooms[k]? with
    | some r =>
      refine .inl ⟨r, .known hr, ?_⟩
      rw [passedOn, Request.room, if_pos rfl]
      cases q with
      | join player => exact within_becomes hr fun r => r.join player
      | move player p => exact within_becomes hr fun r => r.move player p
      | look => exact ⟨rfl, rfl, hr, fun _ _ => rfl⟩
    | none =>
      refine .inr ⟨hr, fun m depth hopens => (by cases hopens), ?_⟩
      cases q with
      | join player => exact within_unknown hr fun r => r.join player
      | move player p => exact within_unknown hr fun r => r.move player p
      | look => rfl

theorem serve_newRoom (ids : Nat → String) (l : Lobby) (q : Request) :
    (serve ids l q).newRoom = l.newRoom := by
  rcases serve_becomes ids l q with ⟨r, -, hbecomes⟩ | ⟨-, -, hsame⟩
  · exact hbecomes.newRoom_eq
  · rw [hsame]

theorem serve_finds (ids : Nat → String) (h : Finds l k q r) :
    (serve ids l q).rooms[k]? = some (r.after (passedOn ids l k q)) := by
  rcases serve_becomes ids l q with ⟨r', hfinds, hbecomes⟩ | ⟨hr', hclosed, hsame⟩
  · by_cases hk : q.room = k
    · subst hk
      rw [h.unique hfinds]
      exact hbecomes.here
    · rw [passedOn_elsewhere hk, hbecomes.elsewhere k (Ne.symm hk)]
      cases h with
      | known hr => exact hr
      | new hr hopens => exact absurd hopens.room_eq hk
  · cases h with
    | known hr =>
      have hk : q.room ≠ k := by
        rintro rfl
        rw [hr] at hr'
        cases hr'
      rw [passedOn_elsewhere hk, hsame]
      exact hr
    | new hr hopens =>
      obtain rfl := hopens.room_eq
      exact absurd hopens (hclosed _ _)

theorem serve_closed (ids : Nat → String) (hr : l.rooms[k]? = none)
    (hclosed : ∀ m depth, ¬ q.Opens k m depth) : (serve ids l q).rooms[k]? = none := by
  rcases serve_becomes ids l q with ⟨r, hfinds, hbecomes⟩ | ⟨-, -, hsame⟩
  · by_cases hk : q.room = k
    · subst hk
      cases hfinds with
      | known hr' =>
        rw [hr] at hr'
        cases hr'
      | new _ hopens => exact absurd hopens (hclosed _ _)
    · rw [hbecomes.elsewhere k (Ne.symm hk), hr]
  · rw [hsame, hr]

/-! ## Runs -/

def after (ids : Nat → String) (l : Lobby) (requests : List Request) : Lobby :=
  requests.foldl (serve ids) l

/-- What the room `k` is asked for in a run. -/
def history (ids : Nat → String) (k : Int) : Lobby → List Request → List Room.Request
  | _, [] => []
  | l, q :: requests => passedOn ids l k q ++ history ids k (serve ids l q) requests

theorem after_append (ids : Nat → String) (l : Lobby) (earlier later : List Request) :
    after ids l (earlier ++ later) = after ids (after ids l earlier) later :=
  List.foldl_append

theorem after_newRoom (ids : Nat → String) (l : Lobby) (requests : List Request) :
    (after ids l requests).newRoom = l.newRoom := by
  induction requests generalizing l with
  | nil => rfl
  | cons q requests ih => exact (ih (serve ids l q)).trans (serve_newRoom ids l q)

theorem after_known (ids : Nat → String) (hr : l.rooms[k]? = some r) (requests : List Request) :
    (after ids l requests).rooms[k]? = some (r.after (history ids k l requests)) := by
  induction requests generalizing l r with
  | nil => exact hr
  | cons q requests ih =>
    rw [history, Room.after_append]
    exact ih (serve_finds ids (.known hr))

theorem after_closed (ids : Nat → String) (hr : l.rooms[k]? = none)
    (hclosed : ∀ q ∈ requests, ∀ m depth, ¬ q.Opens k m depth) :
    (after ids l requests).rooms[k]? = none := by
  induction requests generalizing l with
  | nil => exact hr
  | cons q requests ih =>
    have hnext := serve_closed ids hr (hclosed q (by simp))
    exact ih hnext fun q' hq' => hclosed q' (by simp [hq'])

/-- The first request that makes a room decides what the room is. -/
theorem after_opened (ids : Nat → String) {earlier : List Request} (later : List Request)
    (hr : l.rooms[k]? = none) (hclosed : ∀ q ∈ earlier, ∀ m depth, ¬ q.Opens k m depth)
    (hopens : q.Opens k m depth) :
    ∃ asked, (after ids l (earlier ++ q :: later)).rooms[k]? =
      some ((l.newRoom k m depth).after asked) := by
  let now := after ids l earlier
  have hmade := serve_finds ids (.new (after_closed ids hr hclosed) hopens)
  rw [after_newRoom] at hmade
  refine ⟨passedOn ids now k q ++ history ids k (serve ids now q) later, ?_⟩
  rw [after_append, Room.after_append]
  exact after_known ids hmade later

theorem contains_iff : l.contains k = true ↔ ∃ r, l.rooms[k]? = some r := by
  rw [contains, Std.HashMap.contains_eq_isSome_getElem?, Option.isSome_iff_exists]

theorem serve_contains_iff (ids : Nat → String) (l : Lobby) (q : Request) :
    (serve ids l q).contains k = true ↔
      l.contains k = true ∨ ∃ m depth, q.Opens k m depth := by
  by_cases hfinds : ∃ r, Finds l k q r
  · obtain ⟨r, hr⟩ := hfinds
    refine iff_of_true (contains_iff.2 ⟨_, serve_finds ids hr⟩) ?_
    cases hr with
    | known hr => exact .inl (contains_iff.2 ⟨r, hr⟩)
    | new _ hopens => exact .inr ⟨_, _, hopens⟩
  · have hr : l.rooms[k]? = none :=
      Option.eq_none_iff_forall_ne_some.2 fun r hr => hfinds ⟨r, .known hr⟩
    have hclosed : ∀ m depth, ¬ q.Opens k m depth :=
      fun m depth hopens => hfinds ⟨_, .new hr hopens⟩
    have hnext := serve_closed ids hr hclosed
    simp [contains_iff, hr, hnext, hclosed]

theorem contains_after_iff (ids : Nat → String) (l : Lobby) (requests : List Request) :
    (after ids l requests).contains k = true ↔
      l.contains k = true ∨ ∃ q ∈ requests, ∃ m depth, q.Opens k m depth := by
  induction requests generalizing l with
  | nil => simp [after]
  | cons q requests ih =>
    have hserve := serve_contains_iff (k := k) ids l q
    have hrun := ih (serve ids l q)
    rw [hserve, or_assoc] at hrun
    simpa [after] using hrun

theorem size_eq_ncard (l : Lobby) : l.size = {k | l.contains k = true}.ncard := by
  have hkeys : {k | l.contains k = true} = (l.rooms.keys.toFinset : Set Int) := by
    ext k
    rw [List.coe_toFinset, Set.mem_ofPred_eq, Set.mem_ofPred_eq, Std.HashMap.mem_keys, contains,
      Std.HashMap.contains_iff_mem]
  rw [hkeys, Set.ncard_coe_finset, List.toFinset_card_of_nodup Std.HashMap.nodup_keys,
    Std.HashMap.length_keys, size]

theorem find_eq_ok_iff : l.find k = .ok r ↔ l.rooms[k]? = some r := by
  rw [find]
  cases l.rooms[k]? <;> simp

/-- After a run, a room is there if a request of the run asked for it with a mode that there is, or
with none. The first such request decides for good what the mode is and, in a room with an engine,
how deep the engine searches; the game goes on, whatever else is asked for. There are as many rooms
as numbers that were asked for in this way. Where there is no room, none is found, and whoever asks
for one with a mode that there is not is told so and changes nothing. -/
theorem after_keeps_first (ids : Nat → String) (depth : Int) (setup : Engine.Setup)
    (requests : List Request) :
    let l := after ids (.empty depth setup) requests
    (∀ k, l.contains k = true ↔ ∃ q ∈ requests, ∃ m d, q.Opens k m d) ∧
      (∀ k earlier q later m d, requests = earlier ++ q :: later → q.Opens k m d →
        (∀ q' ∈ earlier, ∀ m' d', ¬ q'.Opens k m' d') →
        ∃ r, l.find k = .ok r ∧ r.id = k ∧ r.mode = m ∧
          (m = .engine → ∃ e, r.engine = some e ∧ e.side = .white ∧
            (d = none ∨ d = some 0 → e.depth = depth) ∧
            ∀ n, d = some n → n ≠ 0 → e.depth = n)) ∧
      (∀ k earlier later r, requests = earlier ++ later →
        (after ids (.empty depth setup) earlier).find k = .ok r →
        l.find k = .ok (r.after (history ids k (after ids (.empty depth setup) earlier) later))) ∧
      l.size = {k | ∃ q ∈ requests, ∃ m d, q.Opens k m d}.ncard ∧
      ∀ k, l.contains k = false →
        l.find k = .error (.unknownRoom k) ∧
          ∀ mode, (∀ m, ¬ Means mode m) → ∀ d, ∃ u,
            l.findOrCreate k (mode.map .text) d = ⟨l, [], .error (.unrecognized u)⟩ ∧
            l.join ids k (mode.map .text) d = ⟨l, [], .error (.unrecognized u)⟩ := by
  intro l
  have hcontains : ∀ k, l.contains k = true ↔ ∃ q ∈ requests, ∃ m d, q.Opens k m d := by
    intro k
    rw [contains_after_iff]
    simp [contains, Lobby.empty]
  refine ⟨hcontains, ?first, ?games, ?size, ?missing⟩
  case first =>
    intro k earlier q later m d hrequests hopens hclosed
    obtain ⟨asked, hroom⟩ := after_opened ids (l := .empty depth setup) later
      (by simp [Lobby.empty]) hclosed hopens
    -- Whatever was asked for since then, number, mode and depth are those of the room as it was made.
    have hnew : Room.Refereed .start ((Lobby.empty depth setup).newRoom k m d) :=
      .empty k m .start (depthOf (.empty depth setup) d) setup
    have hforward := hnew.forward_after asked
    rw [← hrequests] at hroom
    refine ⟨_, find_eq_ok_iff.2 hroom, hforward.id, ?_, ?_⟩
    · rw [hforward.mode]
      cases m <;> rfl
    · rintro rfl
      obtain ⟨table, hengine⟩ := hforward.engine
      refine ⟨_, hengine, rfl, ?_, ?_⟩
      · rintro (rfl | rfl) <;> rfl
      · rintro n rfl hn
        exact if_neg hn
  case games =>
    intro k earlier later r hrequests hr
    rw [find_eq_ok_iff] at hr ⊢
    have hlater := after_known ids hr later
    rw [← after_append, ← hrequests] at hlater
    exact hlater
  case size =>
    rw [size_eq_ncard]
    congr 1
    ext k
    exact hcontains k
  case missing =>
    intro k hk
    have hr : l.rooms[k]? = none := Std.HashMap.getElem?_eq_none_of_contains_eq_false hk
    refine ⟨by rw [find, hr], fun mode hmode d => ?_⟩
    obtain ⟨u, hu⟩ := modeOf_eq_error_iff.2 hmode
    exact ⟨u, refused_of_modeOf ids hr hu d⟩

end Lobby
end Reversi
