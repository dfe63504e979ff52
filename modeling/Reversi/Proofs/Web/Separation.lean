import Mathlib.Logic.Equiv.Basic
import Reversi.Proofs.Web.Changes
import Reversi.Proofs.Web.Mirror

/-!
# Reversi.Proofs.Web.Separation

Rooms do not interfere: what a room answers depends on the requests to it and on nothing else.

* `Service.names`: the numbers of the names that are used up for one room.
* `Service.answers_mirror`: with these names replaced, the room answers the same when it is alone.
* `Service.transcript_separate`: the names can be replaced one by one.
-/

namespace Reversi

/-! ## Permutations -/

theorem exists_perm_map {α : Type} [DecidableEq α] {as bs : List α} (hlen : as.length = bs.length)
    (has : as.Nodup) (hbs : bs.Nodup) : ∃ f : Equiv.Perm α, as.map f = bs := by
  induction as generalizing bs with
  | nil => exact ⟨1, (List.length_eq_zero_iff.1 hlen.symm).symm⟩
  | cons a as ih =>
    cases bs with
    | nil => cases hlen
    | cons b bs =>
      rw [List.nodup_cons] at has hbs
      obtain ⟨f, rfl⟩ := ih (Nat.succ.inj hlen) has.2 hbs.2
      -- Swapping two values behind `f` leaves the images of the others alone.
      refine ⟨f.trans (Equiv.swap (f a) b), ?_⟩
      rw [List.map_cons, Equiv.trans_apply, Equiv.swap_apply_left, List.cons.injEq]
      refine ⟨rfl, List.map_congr_left fun x hx => ?_⟩
      refine Equiv.swap_apply_of_ne_of_ne (fun heq => ?_) (fun heq => ?_)
      · exact has.1 (f.injective heq ▸ hx)
      · exact hbs.1 (heq ▸ List.mem_map_of_mem hx)

/-! ## Requests to a room, and others -/

variable {ρ : Type} {F : FrontEnd ρ}

theorem FrontEnd.toward_of_addressee {q : ρ} {k : Int} (h : F.addressee? q = some k) :
    (F.call q).Toward k := by
  rcases F.reads q with ⟨route, -, hserves⟩ | ⟨r, hcall, hr⟩
  · rw [h] at hserves
    generalize F.call q = call at hserves ⊢
    cases hserves with
    | join => exact .join rfl
    | move => exact .move rfl
    | state => exact .state
  · rw [hcall]
    exact .refused hr

namespace Service

variable {ids ids' : Nat → String} {f : String → String} {k : Int} {l l' : Lobby} {q : ρ}

/-! ## The room alone -/

/-- The numbers of the names that are used up for the room `k`. -/
def names (F : FrontEnd ρ) (ids : Nat → String) (k : Int) : Lobby → List ρ → List Nat
  | _, [] => []
  | l, q :: requests =>
    let rest := names F ids k (F.handle ids l q).lobby requests
    if F.addressee? q = some k ∧ (F.call q).takesName then l.issued :: rest else rest

theorem names_ordered (F : FrontEnd ρ) (ids : Nat → String) (k : Int) (requests : List ρ)
    (l : Lobby) :
    (∀ n ∈ names F ids k l requests, l.issued ≤ n) ∧
      (names F ids k l requests).Pairwise (· < ·) := by
  induction requests generalizing l with
  | nil => simp [names]
  | cons q requests ih =>
    obtain ⟨hbound, hordered⟩ := ih (F.handle ids l q).lobby
    have hmono := issued_mono F ids l q
    rw [names]
    split
    · rename_i htakes
      have hissued : (F.handle ids l q).lobby.issued = l.issued + 1 := by
        rw [issued_handle, if_pos htakes.2]
      refine ⟨List.forall_mem_cons.2 ⟨Nat.le_refl _, fun n hn => ?_⟩,
        List.pairwise_cons.2 ⟨fun n hn => ?_, hordered⟩⟩
      · exact Nat.le_trans hmono (hbound n hn)
      · have := hbound n hn
        omega
    · exact ⟨fun n hn => Nat.le_trans hmono (hbound n hn), hordered⟩

/-- `f` leads from the names that the room still uses up in one lobby to those that come next in
another. -/
def Follows (ids ids' : Nat → String) (f : String → String) (numbers : List Nat) (issued : Nat) :
    Prop :=
  ∀ i n, numbers[i]? = some n → f (ids n) = ids' (issued + i)

theorem Follows.step {q q' : ρ} {requests : List ρ}
    (h : Follows ids ids' f (names F ids k l (q :: requests)) l'.issued)
    (hq : F.addressee? q = some k) (hcall : F.call q' = (F.call q).renamed f) :
    Follows ids ids' f (names F ids k (F.handle ids l q).lobby requests)
      (F.handle ids' l' q').lobby.issued := by
  have hsame : (F.call q').takesName = (F.call q).takesName := by
    rw [hcall]
    cases F.call q <;> rfl
  rw [issued_handle, hsame]
  rw [names] at h
  intro i n hi
  split
  · rename_i htakes
    rw [if_pos ⟨hq, htakes⟩] at h
    rw [h (i + 1) n hi]
    congr 1
    omega
  · rename_i htakes
    rw [if_neg fun hboth => htakes hboth.2] at h
    exact h i n hi

theorem answers_mirror (hf : Function.Injective f) (hempty : f "" = "")
    (requests sent : List ρ) (l l' : Lobby) (hmirror : l.Mirrors f k l')
    (hnames : Follows ids ids' f (names F ids k l requests) l'.issued)
    (hsent : List.Forall₂ (F.Renamed f) (requests.filter (F.addressee? · = some k)) sent) :
    (F.transcript ids' l' sent).map Prod.snd =
      ((F.transcript ids l requests).filter (F.addressee? ·.1 = some k)).map
        (·.2.renamed f) := by
  induction requests generalizing sent l l' with
  | nil =>
    cases hsent
    rfl
  | cons q requests ih =>
    by_cases hq : F.addressee? q = some k
    · rw [List.filter_cons_of_pos (by simpa using hq)] at hsent
      obtain ⟨q', sent, hrenamed, hrest, rfl⟩ := List.forall₂_cons_left_iff.1 hsent
      have hname : (F.call q).takesName = true → f (ids l.issued) = ids' l'.issued := by
        intro htakes
        refine hnames 0 l.issued ?_
        rw [names, if_pos ⟨hq, htakes⟩]
        rfl
      obtain ⟨hanswer, hmirror'⟩ :=
        mirrors_perform hf hmirror (FrontEnd.toward_of_addressee hq) hname
      have hcall := F.call_renamed (fun s => hf.eq_iff' hempty) hrenamed
      rw [← hcall] at hanswer hmirror'
      rw [FrontEnd.transcript, FrontEnd.transcript, List.map_cons,
        List.filter_cons_of_pos (by simpa using hq), List.map_cons]
      exact congrArg₂ List.cons hanswer
        (ih sent _ _ hmirror' (hnames.step hq hcall) hrest)
    · rw [List.filter_cons_of_neg (by simpa using hq)] at hsent
      rw [names, if_neg fun htakes => hq htakes.1] at hnames
      rw [FrontEnd.transcript, List.filter_cons_of_neg (by simpa using hq)]
      refine ih sent _ _ ⟨?_, ?_⟩ hnames hsent
      · exact hmirror.newRoom.trans (effect_perform ids l (F.call q)).newRoom_eq.symm
      · rw [kept_of_addressee_ne hq, hmirror.room]

theorem exists_follows (hids : Function.Injective ids) (hids' : Function.Injective ids')
    (hne : ∀ n, ids n ≠ "") (hne' : ∀ n, ids' n ≠ "") {numbers : List Nat}
    (hnumbers : numbers.Pairwise (· < ·)) :
    ∃ f : Equiv.Perm String, f "" = "" ∧ Follows ids ids' f numbers 0 := by
  have hfirst : ("" :: numbers.map ids).Nodup := by
    refine List.nodup_cons.2 ⟨fun hmem => ?_, (hnumbers.imp Nat.ne_of_lt).map ids ?_⟩
    · obtain ⟨n, -, hn⟩ := List.mem_map.1 hmem
      exact hne n hn
    · exact fun m n hmn heq => hmn (hids heq)
  have hsecond : ("" :: (List.range numbers.length).map ids').Nodup := by
    refine List.nodup_cons.2 ⟨fun hmem => ?_, List.nodup_range.map hids'⟩
    obtain ⟨n, -, hn⟩ := List.mem_map.1 hmem
    exact hne' n hn
  obtain ⟨f, hf⟩ := exists_perm_map (by simp) hfirst hsecond
  rw [List.map_cons, List.cons.injEq] at hf
  refine ⟨f, hf.1, fun i n hi => ?_⟩
  obtain ⟨hlt, rfl⟩ := List.getElem?_eq_some_iff.1 hi
  have hmap := congrArg (·[i]?) hf.2
  simpa [hlt] using hmap

/-- What a room answers depends on the requests to it alone. There is a one-to-one replacement of
names, which keeps the empty one, such that the requests to one room have the same answers, names
replaced, when they are sent alone, also to a service that gives out other names. -/
theorem transcript_separate (F : FrontEnd ρ) (hids : Function.Injective ids)
    (hids' : Function.Injective ids') (hne : ∀ n, ids n ≠ "") (hne' : ∀ n, ids' n ≠ "")
    (depth : Int) (setup : Engine.Setup) (requests : List ρ) (k : Int) :
    ∃ f : Equiv.Perm String, f "" = "" ∧
      (∃ sent, List.Forall₂ (F.Renamed f) (requests.filter (F.addressee? · = some k)) sent) ∧
      ∀ sent, List.Forall₂ (F.Renamed f) (requests.filter (F.addressee? · = some k)) sent →
        (F.transcript ids' (.empty depth setup) sent).map Prod.snd =
          ((F.transcript ids (.empty depth setup) requests).filter
            (F.addressee? ·.1 = some k)).map (·.2.renamed f) := by
  obtain ⟨f, hempty, hfollows⟩ := exists_follows hids hids' hne hne'
    (names_ordered F ids k requests (.empty depth setup)).2
  have hf (s : String) : f s = "" ↔ s = "" := f.injective.eq_iff' hempty
  refine ⟨f, hempty, ?_, fun sent hsent => ?_⟩
  · choose rename hrename using F.exists_renamed hf
    exact ⟨_, List.forall₂_map_right_iff.2 (List.forall₂_same.2 fun q _ => hrename q)⟩
  · have hmirror : (Lobby.empty depth setup).Mirrors f k (.empty depth setup) := by
      refine ⟨rfl, ?_⟩
      simp [Lobby.empty]
    exact answers_mirror f.injective hempty requests sent _ _ hmirror hfollows hsent

/-- Two players join a room while a third one joins another. -/
theorem transcript_separate_joins :
    let F := FrontEnd.http
    let ids (n : Nat) : String := String.ofList (List.replicate (n + 1) 'p')
    let join (room : String) : Request :=
      ⟨⟨[], [], [], [], [], [], []⟩, Text.glyphs "POST", ⟨"/join", [("room", room)]⟩, none⟩
    let requests := [join "1", join "2", join "1"]
    (requests.filter (F.addressee? · = some 1)).length = 2 ∧
      ∃ f : Equiv.Perm String, f "" = "" ∧
        (∃ sent, List.Forall₂ (F.Renamed f) (requests.filter (F.addressee? · = some 1)) sent) ∧
        ∀ sent, List.Forall₂ (F.Renamed f) (requests.filter (F.addressee? · = some 1)) sent →
          (F.transcript ids (.empty 3) sent).map Prod.snd =
            ((F.transcript ids (.empty 3) requests).filter (F.addressee? ·.1 = some 1)).map
              (·.2.renamed f) := by
  intro F ids join requests
  have hids : Function.Injective ids := by
    intro m n h
    have hlen := congrArg String.length h
    simpa [ids] using hlen
  have hne : ∀ n, ids n ≠ "" := by
    intro n h
    have hlen := congrArg String.length h
    simp [ids] at hlen
  refine ⟨by decide +kernel, ?_⟩
  exact transcript_separate F hids hids hne hne 3 .standard requests 1

end Service
end Reversi
