import Reversi.Proofs.Engine.Fresh

/-!
# Reversi.Proofs.Engine.Stored

What a search leaves in its table, whatever was there before.

A search takes the word of an entry that is deeper than it asks for. If the plain values at the two
depths differ, it may store something untrue although every entry was true at its own depth.

* `Search.Honest`: an entry is true at the depth that it records.
* `Search.Written`: what a search may add to a table; `Search.within_written`: it adds nothing else.
* `Search.DeepEntriesHold`: entries deeper than a search asks for are true at the lesser depth, too.
* `Search.run_keeps_honest`: then all that the search stores is true at the depth recorded.
* `Search.run_exchange_dishonest`: otherwise it need not be.
-/

namespace Reversi
namespace Search

variable {p : Search} {root b : Board} {mover t : Side} {d k n fuel : Nat} {w : Window}
  {before table : Table} {r : Finding} {P : Board → Side → Prop}

/-- The entry bounds the plain value at its own depth in the way that its kind says. -/
def Honest (p : Search) (c : Board) (u : Side) (e : Entry) : Prop :=
  ∀ n : Nat, e.depth = n → e.Truthful (c.minimax p.player n u)

/-- Every entry of `after` stood in `before` or comes from a node of a search of depth `d`. -/
def Written (p : Search) (root : Board) (mover : Side) (d : Nat) (before after : Table) : Prop :=
  ∀ key e, after[key]? = some e → before[key]? = some e ∨
    ∃ k c u, k < d ∧ root.Leads mover k c u ∧ c.hasLegalMove u = true ∧ p.key c u = key ∧
      e.depth = ((d - k : Nat) : Int)

theorem Written.refl (p : Search) (root : Board) (mover : Side) (d : Nat) (table : Table) :
    p.Written root mover d table table := fun _ _ he => .inl he

theorem Written.insert {e : Entry} (h : p.Written root mover d before table)
    (hlead : root.Leads mover k b t) (hk : k < d) (ht : b.hasLegalMove t = true)
    (he : e.depth = ((d - k : Nat) : Int)) :
    p.Written root mover d before (table.insert (p.key b t) e) := by
  intro key e' he'
  rw [Std.HashMap.getElem?_insert] at he'
  split at he'
  · rename_i hkey
    cases he'
    exact .inr ⟨k, b, t, hk, hlead, ht, beq_iff_eq.1 hkey, he⟩
  · exact h key e' he'

theorem within_written (hp : p.Orderly) (h : p.within fuel b t (n : Nat) w table = .ok r)
    (hlead : root.Leads mover k b t) (hn : k + n = d)
    (hbefore : p.Written root mover d before table) : p.Written root mover d before r.table := by
  induction fuel generalizing b t k n w table r with
  | zero => cases h
  | succ fuel ih =>
    have hless : ((n : Nat) : Int) ≠ 0 → ((n : Nat) : Int) - 1 = (n - 1 : Nat) := by omega
    cases node_of_within hp h with
    | ended | leaf | answer => exact hbefore
    | @pass r ht ho hpos hr =>
      rw [hless hpos] at hr
      have hafter : p.Written root mover d before r.table :=
        ih hr (hlead.pass ht ho) (by omega) hbefore
      exact hafter
    | @searched narrowed moves r ht hpos _ _ hmoves hr =>
      have hafter : p.Written root mover d before r.table := by
        refine scan_keeps (fun s hs w table r hr hbefore => ?_) _ _ hr hbefore
        have hlegal : s ∈ b.legalMoves t := hmoves.mem_iff.1 hs
        rw [child_of_legal hlegal, hless hpos] at hr
        exact ih hr (hlead.place hlegal) (by omega) hbefore
      have hk : k < d := by omega
      have hdepth : ((n : Nat) : Int) = ((d - k : Nat) : Int) := by omega
      exact hafter.insert hlead hk ht hdepth

/-- Where the table is deeper than a search of depth `d` asks for, it is true at the depth that is
asked for. -/
def DeepEntriesHold (p : Search) (b : Board) (t : Side) (d : Nat) (table : Table) : Prop :=
  ∀ k c u e, k < d → b.Leads t k c u → c.hasLegalMove u = true → table[p.key c u]? = some e →
    ((d - k : Nat) : Int) < e.depth → e.Truthful (c.minimax p.player (d - k) u)

/-- A search with a table that is true at the depths it records leaves such a table, if it finds no
deeper entry that is untrue at the depth it asks for. Whatever it has written is about a position
that it came to, and true at the depth that was left there. Beyond depth 5 it may come to a position
twice, with different depths left; then the plain values at these depths have to agree. -/
theorem run_keeps_honest (hp : p.Orderly) (hw : w.alpha < w.beta)
    (hmet : ∀ c u, b.Expanded t d c u → P c u) (hkeys : p.KeysApart P)
    (htable : p.Remembers P p.Honest table) (hdeep : p.DeepEntriesHold b t d table)
    (hagree : 5 < d → b.DepthsAgree p.player t d) :
    ∃ r, p.run b t d w table = .ok r ∧ p.Remembers P p.Honest r.table ∧
      ∀ key e, r.table[key]? = some e → table[key]? = some e ∨
        ∃ k c u, k < d ∧ b.Leads t k c u ∧ c.hasLegalMove u = true ∧ p.key c u = key ∧
          e.depth = ((d - k : Nat) : Int) ∧ e.Truthful (c.minimax p.player (d - k) u) := by
  have hagree' : b.DepthsAgree p.player t d := by
    by_cases hd : 5 < d
    · exact hagree hd
    · exact b.depthsAgree_of_le_five p.player t (by omega)
  let R := freshRegime hp
    (fun c u c' u' h h' => hkeys c u c' u' (hmet c u h) (hmet c' u' h')) hagree'
  have hkeeps : R.Keeps table := by
    intro c u e hc he k hk hlead hreach
    rcases hreach.lt_or_eq with hlt | heq
    · exact hdeep k c u e hk hlead hc.1 he hlt
    · exact htable c u e (hmet c u hc) he (d - k) heq.symm
  obtain ⟨r, hr⟩ := run_ok hp b t d w table
  obtain ⟨hkept, -⟩ := R.within_sound _ hr R.visits_root hw hkeeps
  have hwritten : ∀ key e, r.table[key]? = some e → table[key]? = some e ∨
      ∃ k c u, k < d ∧ b.Leads t k c u ∧ c.hasLegalMove u = true ∧ p.key c u = key ∧
        e.depth = ((d - k : Nat) : Int) ∧ e.Truthful (c.minimax p.player (d - k) u) := by
    intro key e he
    refine (within_written hp hr .here d.zero_add (.refl p b t d table) key e he).imp_right ?_
    rintro ⟨k, c, u, hk, hlead, hu, rfl, hdepth⟩
    exact ⟨k, c, u, hk, hlead, hu, rfl, hdepth,
      hkept c u e ⟨hu, k, hk, hlead⟩ he k hk hlead hdepth.ge⟩
  refine ⟨r, hr, fun c u e hc he n hn => ?_, hwritten⟩
  rcases hwritten (p.key c u) e he with hold | ⟨k, c', u', hk, hlead, hu, hkey, hdepth, htrue⟩
  · exact htable c u e hc hold n hn
  · obtain ⟨rfl, rfl⟩ := hkeys c' u' c u (hmet c' u' ⟨hu, k, hk, hlead⟩) hc hkey
    obtain rfl : n = d - k := by omega
    exact htrue

theorem cornered_expanded {c : Board} {u : Side} (h : Board.cornered.Expanded .white d c u) :
    c = .cornered ∧ u = .white := by
  obtain ⟨hu, k, -, hlead⟩ := h
  exact (hlead.eq_root Board.cornered_moves.2 Board.cornered_ends hu).2

/-- A bound that was found one ply deeper narrows the window of the search. -/
theorem run_keeps_honest_cornered :
    let p := (Engine.fresh .white 6).search
    let table : Table := (∅ : Table).insert (p.key .cornered .white) ⟨7, .fin 10000, .lower, none⟩
    let P := Board.cornered.Expanded .white 6
    p.KeysApart P ∧ p.Remembers P p.Honest table ∧ p.DeepEntriesHold .cornered .white 6 table ∧
      Board.cornered.DepthsAgree .white .white 6 ∧
      ∃ r, p.run .cornered .white (6 : Nat) .full table = .ok r ∧ p.Remembers P p.Honest r.table := by
  intro p table P
  have hworth : 10000 ≤ Board.cornered.minimax .white 7 .white ∧
      10000 ≤ Board.cornered.minimax .white 6 .white := by decide +kernel
  have hkeys : p.KeysApart P := keysApart_of_unique fun c u h => cornered_expanded h
  have hentry : ∀ {e}, table[p.key .cornered .white]? = some e →
      e = ⟨7, .fin 10000, .lower, none⟩ := by
    intro e he
    rw [Std.HashMap.getElem?_insert_self] at he
    exact (Option.some.inj he).symm
  have htable : p.Remembers P p.Honest table := by
    intro c u e hc he n hn
    obtain ⟨rfl, rfl⟩ := cornered_expanded hc
    obtain rfl := hentry he
    obtain rfl : n = 7 := (Int.ofNat.inj hn).symm
    exact Value.fin_le_fin.2 hworth.1
  have hdeep : p.DeepEntriesHold .cornered .white 6 table := by
    intro k c u e hk hlead hu he _
    obtain ⟨rfl, rfl, rfl⟩ := hlead.eq_root Board.cornered_moves.2 Board.cornered_ends hu
    obtain rfl := hentry he
    exact Value.fin_le_fin.2 hworth.2
  have hagree : Board.cornered.DepthsAgree .white .white 6 := by
    intro k k' c u _ _ h h' hu
    obtain ⟨rfl, -⟩ := h.eq_root Board.cornered_moves.2 Board.cornered_ends hu
    obtain ⟨rfl, -⟩ := h'.eq_root Board.cornered_moves.2 Board.cornered_ends hu
    rfl
  obtain ⟨r, hr, hhonest, -⟩ := run_keeps_honest (Engine.search_orderly _)
    (show Window.full.alpha < Window.full.beta from rfl) (fun _ _ h => h) hkeys htable hdeep
    (fun _ => hagree)
  exact ⟨hkeys, htable, hdeep, hagree, r, hr, hhonest⟩

/-! ## A deeper entry that is untrue at the lesser depth -/

theorem within_answered {e : Entry} {depth : Int} (ht : b.hasLegalMove t = true)
    (hdepth : depth ≠ 0) (he : p.Usable table b t depth e) (hexact : e.bound = .exact) :
    p.within (fuel + 1) b t depth w table = .ok ⟨e.value, e.best, table⟩ := by
  obtain ⟨hhit, hdeep⟩ := he
  rw [within_move ht hdepth]
  simp only [hhit, consult, Entry.consult, if_neg (not_lt.2 hdeep), hexact, true_or, if_true]

theorem within_forced {s : Square} {depth : Int} {r : Finding} {v : Int} (hp : p.Orderly)
    (hmoves : b.legalMoves t = [s]) (hdepth : depth ≠ 0) (hnew : table[p.key b t]? = none)
    (h : p.within fuel (b.place t s) t.opponent (depth - 1) w table = .ok r)
    (hvalue : r.value = .fin v) :
    p.within (fuel + 1) b t depth w table = .ok ⟨r.value, some s.position,
      r.table.insert (p.key b t) ⟨depth, r.value, w.classify r.value, some s.position⟩⟩ := by
  have horder : p.order b t [s] = [s] := List.perm_singleton.1 (hp b t [s])
  have hplay : b.play? t s = some (b.place t s) :=
    Board.play?_eq_some_iff.2 ⟨by rw [hmoves]; exact List.mem_cons_self, rfl⟩
  have hbetter : better (t == p.player) r.value (worst (t == p.player)) = true := by
    rw [hvalue]
    cases t == p.player <;> rfl
  rw [within]
  simp only [hmoves, List.isEmpty_cons, Bool.false_eq_true, if_false, if_neg hdepth, hnew, consult,
    Option.bind_none, promote, horder, scan, hplay, h, hbetter, if_true, ite_self]

end Search

/-- Both sides have one placement after the other. White turns three discs of a column, Black takes
the disc just placed and one of the three, and White ends the game. -/
def Board.exchange : Board :=
  let e := Cell.empty
  let x := Cell.black
  let o := Cell.white
  ⟨#v[
    x, x, x, x, x, x, o, x,
    x, e, x, x, x, x, x, x,
    x, x, x, x, x, x, x, x,
    x, x, x, x, x, x, x, x,
    x, x, x, x, x, x, e, e,
    x, x, x, x, x, x, x, x,
    x, x, x, x, x, x, x, x,
    x, x, x, x, x, x, x, x]⟩

def Board.exchanged : Board :=
  let e := Cell.empty
  let x := Cell.black
  let o := Cell.white
  ⟨#v[
    x, x, x, x, x, x, o, x,
    x, e, x, x, x, x, o, x,
    x, x, x, x, x, x, o, x,
    x, x, x, x, x, x, o, x,
    x, x, x, x, x, x, o, e,
    x, x, x, x, x, x, x, x,
    x, x, x, x, x, x, x, x,
    x, x, x, x, x, x, x, x]⟩

namespace Search

def exchangeSearch : Search := (Engine.fresh .white 2 (.ofWords .numbered)).search

/-- What a search of depth 2 finds out about the position in which Black is to move. -/
def exchangeTable : Table :=
  (∅ : Table).insert (exchangeSearch.key .exchanged .black)
    ⟨2, .fin (-10048), .exact, some ⟨4, 7⟩⟩

theorem exchange_facts :
    Board.exchange.legalMoves .white = [⟨4, 6⟩] ∧
      Board.exchange.place .white ⟨4, 6⟩ = Board.exchanged ∧
      Board.exchanged.hasLegalMove .black = true ∧
      Board.exchanged.minimax .white 2 .black = -10048 ∧
      Board.exchange.minimax .white 2 .white = -304 := by
  decide +kernel

theorem exchange_keys :
    (((List.range 3).flatMap (Board.exchange.plies .white)).map
      fun x => exchangeSearch.key x.1 x.2).Nodup := by
  decide +kernel

def Exchanging (c : Board) (u : Side) : Prop := ∃ k ≤ 2, Board.exchange.Leads .white k c u

theorem exchange_keysApart : exchangeSearch.KeysApart Exchanging := by
  refine keysApart_of_nodup ?_ exchange_keys
  rintro c u ⟨k, hk, hlead⟩
  exact List.mem_flatMap.2 ⟨k, List.mem_range.2 (by omega), hlead.mem_plies⟩

/-- White's placement is forced, so the search of depth 2 asks for depth 1 of the position after it.
It gets the value that the entry has for depth 2 and stores it about the board. -/
theorem run_exchange_dishonest :
    exchangeSearch.Orderly ∧ Window.full.alpha < Window.full.beta ∧
      exchangeSearch.KeysApart Exchanging ∧
      exchangeSearch.Remembers Exchanging exchangeSearch.Honest exchangeTable ∧
      ∃ r e, exchangeSearch.run .exchange .white (2 : Nat) .full exchangeTable = .ok r ∧
        r.table[exchangeSearch.key .exchange .white]? = some e ∧ e.depth = (2 : Nat) ∧
        e.bound = .exact ∧ e.value = .fin (-10048) ∧
        Board.exchange.minimax exchangeSearch.player 2 .white = -304 ∧
        ¬ exchangeSearch.Remembers Exchanging exchangeSearch.Honest r.table := by
  obtain ⟨hmoves, hplace, hreply, hdeep, hplain⟩ := exchange_facts
  have horder : exchangeSearch.Orderly := Engine.search_orderly _
  have hlegal : (⟨4, 6⟩ : Square) ∈ Board.exchange.legalMoves .white := by
    rw [hmoves]
    exact List.mem_cons_self
  have hfirst : Exchanging .exchange .white := ⟨0, by omega, .here⟩
  have hsecond : Exchanging .exchanged .black := by
    rw [← hplace]
    exact ⟨1, by omega, .place .here hlegal⟩
  have hkey : exchangeSearch.key .exchange .white ≠ exchangeSearch.key .exchanged .black := by
    intro h
    cases (exchange_keysApart _ _ _ _ hfirst hsecond h).2
  have htable : exchangeSearch.Remembers Exchanging exchangeSearch.Honest exchangeTable := by
    refine (exchangeSearch.remembers_empty _ _).insert exchange_keysApart hsecond fun n hn => ?_
    obtain rfl : n = 2 := (Int.ofNat.inj hn).symm
    exact congrArg Value.fin hdeep.symm
  have hnew : exchangeTable[exchangeSearch.key .exchange .white]? = none := by
    rw [exchangeTable, Std.HashMap.getElem?_insert, if_neg (by simpa using hkey.symm)]
    exact Std.HashMap.getElem?_empty
  have hanswer : exchangeSearch.within 6 (Board.exchange.place .white ⟨4, 6⟩) Side.white.opponent
      (((2 : Nat) : Int) - 1) .full exchangeTable =
        .ok ⟨.fin (-10048), some ⟨4, 7⟩, exchangeTable⟩ := by
    rw [hplace]
    exact within_answered hreply (by decide) ⟨Std.HashMap.getElem?_insert_self, by decide⟩ rfl
  have hrun := within_forced horder hmoves (by decide) hnew hanswer rfl
  have hfuel : 2 * Board.exchange.empties + 1 = 7 := by decide +kernel
  refine ⟨horder, rfl, exchange_keysApart, htable, _, _, by rw [run, hfuel]; exact hrun,
    Std.HashMap.getElem?_insert_self, rfl, rfl, rfl, hplain, fun h => ?_⟩
  have htrue := h .exchange .white _ hfirst Std.HashMap.getElem?_insert_self 2 rfl
  have hvalue : Value.fin (-10048) = .fin (Board.exchange.minimax .white 2 .white) := htrue
  rw [hplain] at hvalue
  cases hvalue

end Search
end Reversi
