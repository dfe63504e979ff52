import Reversi.Proofs.Web.Body
import Reversi.Proofs.Web.Requests

/-!
# Reversi.Proofs.Web.Renaming

Requests and answers do not care what players are called.

* `Request.Renamed`: the same request from a player with another name.
* `Request.Renamed.call_eq`: it is understood in the same way, and so are its faults;
  `Request.exists_renamed`: it can always be sent.
* `Response.renamed`: the same answer to a player with another name.
-/

namespace Reversi

/-! ## Names in requests -/

def Call.renamed (f : String → String) : Call → Call
  | .move form => .move { form with player := f form.player }
  | call => call

namespace Datum

/-- A text replaced. What is no string stays. -/
def mapText (f : String → String) : Datum → Datum
  | .text gs =>
    match Text.string? gs with
    | some s => .ofString (f s)
    | none => .text gs
  | x => x

def renamedMembers (f : String → String) (members : List (List Glyph × Datum)) :
    List (List Glyph × Datum) :=
  members.map fun m => (m.1, if m.1 = Text.glyphs "player" then m.2.mapText f else m.2)

def renamed (f : String → String) : Datum → Datum
  | .record members => .record (renamedMembers f members)
  | x => x

end Datum

/-- The same request from a player with another name. -/
inductive Request.Renamed (f : String → String) (q : Request) : Request → Prop where
  /-- The name is replaced in the body, whatever else the body says and however it is written. -/
  | read {text text' : String} {x : Datum} : q.body = some text → Datum.read text = .ok x →
      Datum.read text' = .ok (x.renamed f) → Renamed f q { q with body := some text' }
  /-- The body asks for the same, but for the name. -/
  | call {body : Option String} :
      Call.ofRequest { q with body := body } = (Call.ofRequest q).renamed f →
      Renamed f q { q with body := body }

namespace Datum

theorem no_half_of_string? {gs : List Glyph} {s : String} (h : Text.string? gs = some s) :
    gs.any Glyph.isHalf = false := by
  rw [Text.string?_eq_some_iff.1 h]
  simp [Text.glyphs, Glyph.isHalf]

variable (f : String → String)

theorem hasSpelling_mapText (x : Datum) : (x.mapText f).hasSpelling = x.hasSpelling := by
  cases x with
  | text gs =>
    rw [mapText]
    cases hs : Text.string? gs with
    | none => rfl
    | some s =>
      have hno : (Text.glyphs (f s)).any Glyph.isHalf = false :=
        no_half_of_string? (Text.string?_glyphs (f s))
      simp only [ofString, hasSpelling, hno, no_half_of_string? hs]
  | _ => rfl

theorem depth_mapText (x : Datum) : (x.mapText f).depth = x.depth := by
  cases x with
  | text gs =>
    rw [mapText]
    cases Text.string? gs <;> rfl
  | _ => rfl

theorem quotable_mapText (x : Datum) : (x.mapText f).quotable = x.quotable := by
  rw [quotable, quotable, hasSpelling_mapText, depth_mapText]

theorem membersHaveSpelling_renamed (members : List (List Glyph × Datum)) :
    membersHaveSpelling (renamedMembers f members) = membersHaveSpelling members := by
  induction members with
  | nil => rfl
  | cons m members ih =>
    rw [renamedMembers, List.map_cons, ← renamedMembers, membersHaveSpelling, membersHaveSpelling,
      ih]
    split <;> simp only [hasSpelling_mapText]

theorem membersDepth_renamed (members : List (List Glyph × Datum)) :
    membersDepth (renamedMembers f members) = membersDepth members := by
  induction members with
  | nil => rfl
  | cons m members ih =>
    rw [renamedMembers, List.map_cons, ← renamedMembers, membersDepth, membersDepth, ih]
    congr 2
    split <;> simp only [depth_mapText]

theorem quotable_renamed (members : List (List Glyph × Datum)) :
    (record (renamedMembers f members)).quotable = (record members).quotable := by
  rw [quotable, quotable, hasSpelling, hasSpelling, depth, depth, membersHaveSpelling_renamed,
    membersDepth_renamed]

theorem member?_player (members : List (List Glyph × Datum)) :
    member? "player" (renamedMembers f members) = (member? "player" members).map (mapText f) := by
  rw [member?, member?]
  induction members with
  | nil => rfl
  | cons m members ih =>
    rw [renamedMembers, List.map_cons, ← renamedMembers, List.lookup_cons, List.lookup_cons, ih]
    by_cases hname : m.1 = Text.glyphs "player"
    · simp [hname]
    · have hne : (Text.glyphs "player" == m.1) = false := beq_eq_false_iff_ne.2 (Ne.symm hname)
      simp only [hne]

theorem member?_of_ne {name : String} (h : name ≠ "player") (members : List (List Glyph × Datum)) :
    member? name (renamedMembers f members) = member? name members := by
  have hglyphs : Text.glyphs name ≠ Text.glyphs "player" := by
    intro heq
    have hsome := congrArg Text.string? heq
    rw [Text.string?_glyphs, Text.string?_glyphs] at hsome
    exact h (Option.some.inj hsome)
  rw [member?, member?]
  induction members with
  | nil => rfl
  | cons m members ih =>
    rw [renamedMembers, List.map_cons, ← renamedMembers, List.lookup_cons, List.lookup_cons, ih]
    by_cases hname : m.1 = Text.glyphs "player"
    · have hne : (Text.glyphs name == m.1) = false := beq_eq_false_iff_ne.2 (hname ▸ hglyphs)
      simp only [hne]
    · simp only [if_neg hname]

end Datum

/-! ## The check of a request -/

namespace Field

variable {f : String → String}

theorem playerName_mapText (hf : ∀ s, f s = "" ↔ s = "") (x : Datum) :
    playerName (x.mapText f) = (playerName x).map f := by
  cases x with
  | text gs =>
    rw [Datum.mapText, playerName]
    cases hs : Text.string? gs with
    | none => simp only [playerName, hs, Except.map]
    | some s =>
      have hempty : (f s).isEmpty = s.isEmpty := by
        rw [Bool.eq_iff_iff, String.isEmpty_iff, String.isEmpty_iff]
        exact hf s
      simp only [Datum.ofString, playerName, Text.string?_glyphs, hempty]
      split <;> rfl
  | _ => rfl

theorem named_renamed {α : Type} {short long : String} (read : Datum → Except ComplaintKind α)
    (hshort : short ≠ "player") (hlong : long ≠ "player") (members : List (List Glyph × Datum)) :
    named (Datum.renamedMembers f members) short long read = named members short long read := by
  rw [named, named, Datum.member?_of_ne f hshort, Datum.member?_of_ne f hlong,
    Datum.quotable_renamed]

theorem named_player (hf : ∀ s, f s = "" ↔ s = "") (members : List (List Glyph × Datum)) :
    named (Datum.renamedMembers f members) "player" "player" playerName =
      (named members "player" "player" playerName).map f := by
  rw [named, named, Datum.member?_player, Datum.quotable_renamed]
  cases Datum.member? "player" members with
  | none => rfl
  | some x =>
    simp only [Option.map_some, playerName_mapText hf, Datum.quotable_mapText]
    cases playerName x <;> rfl

end Field

theorem MoveForm.ofMembers_renamed {f : String → String} (hf : ∀ s, f s = "" ↔ s = "")
    (members : List (List Glyph × Datum)) :
    ofMembers (Datum.renamedMembers f members) =
      (ofMembers members).map fun (square, player) => (square, f player) := by
  rw [ofMembers, ofMembers, Field.named_renamed _ (by decide) (by decide),
    Field.named_renamed _ (by decide) (by decide), Field.named_player hf]
  cases Field.named members "r" "row" Field.coordinate <;>
    cases Field.named members "c" "col" Field.coordinate <;>
      cases Field.named members "player" "player" Field.playerName <;> rfl

theorem MoveForm.ofRequest_renamed {f : String → String} (hf : ∀ s, f s = "" ↔ s = "")
    (q : Request) (body : Option String) (x : Datum) :
    ofRequest { q with body := body } (some (x.renamed f)) =
      (ofRequest q (some x)).map fun form => { form with player := f form.player } := by
  have hroom : Request.room { q with body := body } = q.room := rfl
  rw [ofRequest, ofRequest, hroom]
  cases x with
  | record found =>
    simp only [Datum.renamed, members, ofMembers_renamed hf]
    cases q.room <;> cases ofMembers found <;> rfl
  | _ => cases q.room <;> rfl

namespace Call

theorem readBody_of_read {text : String} {x : Datum} (h : Datum.read text = .ok x) :
    readBody (some text) = .ok (some x) := by
  have hne : text.isEmpty = false := by
    rw [← Bool.not_eq_true, String.isEmpty_iff]
    rintro rfl
    exact nomatch h
  simp only [readBody, hne, h, Bool.false_eq_true, if_false]

/-- Only where discs are placed does it matter what the body says. -/
theorem ofRoute_body {route : Route} (h : route ≠ .move) (f : String → String) (q : Request)
    (body : Option String) :
    ofRoute { q with body := body } route = (ofRoute q route).renamed f := by
  cases route with
  | move => exact absurd rfl h
  | join =>
    change ofChecked join (JoinForm.ofRequest q) = (ofChecked join (JoinForm.ofRequest q)).renamed f
    cases JoinForm.ofRequest q <;> rfl
  | state =>
    change ofChecked state q.room = (ofChecked state q.room).renamed f
    cases q.room <;> rfl
  | page | health | reference => rfl

theorem ofRoute_move_renamed {f : String → String} (hf : ∀ s, f s = "" ↔ s = "") {q : Request}
    {text text' : String} {x : Datum} (hbody : q.body = some text) (hread : Datum.read text = .ok x)
    (hread' : Datum.read text' = .ok (x.renamed f)) :
    ofRoute { q with body := some text' } .move = (ofRoute q .move).renamed f := by
  simp only [ofRoute, hbody, readBody_of_read hread, readBody_of_read hread',
    MoveForm.ofRequest_renamed hf]
  cases MoveForm.ofRequest q (some x) <;> rfl

end Call

/-- The service understands the same, but for the name. -/
theorem Request.Renamed.call_eq {f : String → String} (hf : ∀ s, f s = "" ↔ s = "")
    {q q' : Request} (h : q.Renamed f q') : Call.ofRequest q' = (Call.ofRequest q).renamed f := by
  cases h with
  | call hcall => exact hcall
  | read hbody hread hread' =>
    simp only [Call.ofRequest]
    cases Route.ofPath? q.target.path with
    | none => rfl
    | some route =>
      simp only
      split
      · by_cases hroute : route = .move
        · rw [hroute, Call.ofRoute_move_renamed hf hbody hread hread']
        · exact Call.ofRoute_body hroute f q _
      · rfl

/-- A player with a name who sends this body is understood. -/
theorem Call.ofRequest_body {q : Request} {room : Int} (hroute : q.route? = some .move)
    (hroom : q.room = .ok room) (square : Square) {player : String} (hne : player ≠ "") :
    ofRequest { q with body := some (MoveForm.body square player) } =
      .move ⟨room, square, player⟩ := by
  have hroute' : Request.route? { q with body := some (MoveForm.body square player) } =
      some .move := hroute
  have hroom' : Request.room { q with body := some (MoveForm.body square player) } =
      .ok room := hroom
  rw [ofRequest_of_route? hroute']
  simp only [ofRoute, readBody_of_read (Datum.read_body square player), MoveForm.ofRequest,
    MoveForm.members, MoveForm.ofMembers_said square hne, hroom']
  rfl

/-- Every request can be sent by a player with another name. -/
theorem Request.exists_renamed {f : String → String} (hf : ∀ s, f s = "" ↔ s = "") (q : Request) :
    ∃ q', q.Renamed f q' := by
  have hcases := Call.ofRequest_cases q
  generalize hcall : Call.ofRequest q = call at hcases
  have hsame : (∀ form, call ≠ .move form) → ∃ q', q.Renamed f q' := by
    intro hno
    refine ⟨{ q with body := q.body }, .call ?_⟩
    change Call.ofRequest q = _
    rw [hcall]
    cases call with
    | move form => exact absurd rfl (hno form)
    | _ => rfl
  rcases hcases with ⟨route, hroute, hserves⟩ | ⟨r, rfl, -⟩
  · generalize q.addressee? = k at hserves
    cases hserves with
    | @move form hplayer =>
      -- The body is written anew: what else it said does not matter.
      have hroom : q.room = .ok form.room := by
        rw [Call.ofRequest_of_route? hroute] at hcall
        rcases Call.ofRoute_move q with ⟨form', hcall', hroom, -⟩ | ⟨r, hcall', -⟩
        · cases hcall.symm.trans hcall'
          exact hroom
        · cases hcall.symm.trans hcall'
      have hname : f form.player ≠ "" := fun he => hplayer ((hf _).1 he)
      let body := MoveForm.body form.square (f form.player)
      refine ⟨{ q with body := some body }, .call ?_⟩
      rw [hcall, Call.ofRequest_body hroute hroom form.square hname, Call.renamed]
    | _ => exact hsame fun form => Call.noConfusion
  · exact hsame fun form => Call.noConfusion

/-! ## Names in answers -/

/-- A string replaced. Other values stay. -/
def Json.mapString (f : String → String) : Json → Json
  | .str s => .str (f s)
  | x => x

/-- The name that is given to a player, replaced. -/
def Json.renamed (f : String → String) : Json → Json
  | .obj fields => .obj (fields.map fun m =>
      (m.1, if m.1 = "player_id" then m.2.mapString f else m.2))
  | x => x

def Content.renamed (f : String → String) : Content → Content
  | .json x => .json (x.renamed f)
  | content => content

def Response.renamed (f : String → String) (r : Response) : Response :=
  { r with content := r.content.renamed f }

namespace Response

variable (f : String → String)

theorem renamed_detail (status : Nat) (x : Json) :
    (detail status x).renamed f = detail status x := by
  simp [detail, renamed, Content.renamed, Json.renamed]

theorem renamed_toMethod (method : List Glyph) {r : Response} (h : r.renamed f = r) :
    (r.toMethod method).renamed f = r.toMethod method := by
  rw [toMethod]
  split
  · rw [head]
    cases r.content <;> rfl
  · exact h

theorem renamed_report (items : List Complaint) : (report items).renamed f = report items := by
  rw [report]
  split <;> rfl

theorem Complains.renamed {r : Response} (h : r.Complains) : r.renamed f = r := by
  cases h with
  | report items => exact renamed_report f items
  | invalid | unreadableBody => rfl
  | notFound method => exact renamed_toMethod f method (renamed_detail f _ _)
  | redirect method => exact renamed_toMethod f method rfl
  | methodNotAllowed method => exact renamed_toMethod f method (renamed_detail f _ _)

end Response

end Reversi
