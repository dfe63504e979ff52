import Mathlib.Data.List.Perm.Basic
import Reversi.Proofs.Flips
import Reversi.Proofs.Legality
import Reversi.Proofs.Plies
import Reversi.Zobrist

/-!
# Reversi.Proofs.Zobrist

The key of a position, carried along from ply to ply.

* `Zobrist.mix`: the exclusive or of one word for each square of a list, in whatever order.
* `Zobrist.hash_set`: one square changes, and the key with its word.
* `Zobrist.hash_fill`: a list of squares is filled, none of them twice.
* `Zobrist.word`: the word that the table has for a disc of a side.
* `Zobrist.change`, `Zobrist.turnover`: the words of a placement, and of a change of the side to
  move; `Zobrist.hash_place` adds them to a key.
* `Zobrist.Carries`: a key carried along a line of placements and passes.
* `Zobrist.hash_incremental`: the carried key is that of the position, however it was reached.
-/

namespace Reversi
namespace Zobrist

variable {z : Zobrist} {b c : Board} {t u : Option Side} {side : Side} {s : Square}
  {key : UInt64}

/-! ## Words of many squares -/

/-- The exclusive or of the words of the squares in a list. -/
def mix (word : Square → UInt64) (squares : List Square) : UInt64 :=
  squares.foldl (fun key s => key ^^^ word s) 0

theorem mix_cons (word : Square → UInt64) (s : Square) (squares : List Square) :
    mix word (s :: squares) = word s ^^^ mix word squares := by
  have hfold : ∀ (l : List Square) (key : UInt64),
      l.foldl (fun key s => key ^^^ word s) key = key ^^^ mix word l := by
    intro l
    induction l with
    | nil => simp [mix]
    | cons s l ih =>
      intro key
      rw [mix, List.foldl_cons, List.foldl_cons, ih, ih (0 ^^^ word s), UInt64.zero_xor,
        UInt64.xor_assoc]
  rw [mix, List.foldl_cons, hfold, UInt64.zero_xor]

theorem mix_perm {word : Square → UInt64} {squares squares' : List Square}
    (h : squares.Perm squares') : mix word squares = mix word squares' := by
  have hcomm : RightCommutative fun (key : UInt64) s => key ^^^ word s :=
    ⟨fun key s s' => by ac_rfl⟩
  exact h.foldl_eq 0

theorem mix_congr {word word' : Square → UInt64} {squares : List Square}
    (h : ∀ s ∈ squares, word s = word' s) : mix word squares = mix word' squares :=
  List.foldl_ext _ _ 0 fun key s hs => congrArg (key ^^^ ·) (h s hs)

/-! ## One square after the other -/

theorem hash_eq (z : Zobrist) (b : Board) (t : Option Side) :
    z.hash b t = mix (fun q => z.squareKey q (b.get q)) Square.all ^^^ z.sideKey t := rfl

/-- The word of what stood on the square goes, and that of what stands there now comes. -/
theorem hash_set (z : Zobrist) (b : Board) (s : Square) (x : Cell) (t : Option Side) :
    z.hash (b.set s x) t = z.hash b t ^^^ (z.squareKey s x ^^^ z.squareKey s (b.get s)) := by
  have hsplit : ∀ b : Board, mix (fun q => z.squareKey q (b.get q)) Square.all =
      z.squareKey s (b.get s) ^^^ mix (fun q => z.squareKey q (b.get q)) (Square.all.erase s) :=
    fun b => by rw [mix_perm (List.perm_cons_erase (Square.mem_all s)), mix_cons]
  have hrest : mix (fun q => z.squareKey q ((b.set s x).get q)) (Square.all.erase s) =
      mix (fun q => z.squareKey q (b.get q)) (Square.all.erase s) := by
    refine mix_congr fun q hq => ?_
    have hne : q ≠ s := (Square.nodup_all.mem_erase_iff.1 hq).1
    simp only [Board.get_set_ne hne.symm]
  rw [hash_eq, hash_eq, hsplit, hsplit b, hrest, Board.get_set_self]
  generalize mix _ (Square.all.erase s) = rest
  calc z.squareKey s x ^^^ rest ^^^ z.sideKey t
      = z.squareKey s x ^^^ rest ^^^ z.sideKey t ^^^
          (z.squareKey s (b.get s) ^^^ z.squareKey s (b.get s)) := by
        rw [UInt64.xor_self, UInt64.xor_zero]
    _ = z.squareKey s (b.get s) ^^^ rest ^^^ z.sideKey t ^^^
          (z.squareKey s x ^^^ z.squareKey s (b.get s)) := by
        ac_rfl

/-- By induction on the list: no square of the rest has changed when its turn comes. -/
theorem hash_fill (z : Zobrist) (b : Board) (side : Side) {squares : List Square}
    (h : squares.Nodup) (t : Option Side) :
    z.hash (b.fill side squares) t = z.hash b t ^^^
      mix (fun q => z.squareKey q side.disc ^^^ z.squareKey q (b.get q)) squares := by
  induction squares generalizing b with
  | nil => simp [Board.fill, mix]
  | cons s squares ih =>
    obtain ⟨hs, hsquares⟩ := List.nodup_cons.1 h
    have hrest : mix (fun q => z.squareKey q side.disc ^^^
          z.squareKey q ((b.set s side.disc).get q)) squares =
        mix (fun q => z.squareKey q side.disc ^^^ z.squareKey q (b.get q)) squares := by
      refine mix_congr fun q hq => ?_
      have hne : s ≠ q := by
        rintro rfl
        exact hs hq
      simp only [Board.get_set_ne hne]
    change z.hash ((b.set s side.disc).fill side squares) t = _
    rw [ih _ hsquares, hrest, hash_set, mix_cons, UInt64.xor_assoc]

/-! ## Placements -/

/-- The word of the side to move, if exactly one of the two is White. -/
def turnover (z : Zobrist) (t u : Option Side) : UInt64 :=
  if t = some .white ↔ u = some .white then 0 else z.whiteToMove

/-- The table's word of a disc of a side: of the two words of a square the first is Black's. -/
def word (z : Zobrist) (side : Side) (s : Square) : UInt64 :=
  match side with
  | .black => (z.pieces.get s.index).1
  | .white => (z.pieces.get s.index).2

theorem squareKey_disc (z : Zobrist) (side : Side) (s : Square) :
    z.squareKey s side.disc = z.word side s := by
  cases side <;> rfl

/-- The word of the disc that is placed, and both words of each disc that it turns. -/
def change (z : Zobrist) (b : Board) (side : Side) (s : Square) : UInt64 :=
  z.word side s ^^^ mix (fun q => z.word side q ^^^ z.word side.opponent q) (b.flips side s)

theorem hash_turnover (z : Zobrist) (b : Board) (t u : Option Side) :
    z.hash b u = z.hash b t ^^^ z.turnover t u := by
  have hside : z.sideKey u = z.sideKey t ^^^ z.turnover t u := by
    rcases t with _ | (_ | _) <;> rcases u with _ | (_ | _) <;> simp [sideKey, turnover]
  rw [hash_eq, hash_eq, hside, UInt64.xor_assoc]

theorem hash_place (hs : s ∈ b.legalMoves side) (t u : Option Side) :
    z.hash (b.place side s) u = z.hash b t ^^^ z.change b side s ^^^ z.turnover t u := by
  have hfree : b.get s = .empty := Board.get_of_isLegal (Board.mem_legalMoves.1 hs)
  have hother : ∀ q ∈ b.flips side s, b.get q = side.opponent.disc :=
    fun q hq => (Board.mem_flips_iff.1 hq).2.get_eq
  have hnodup : (s :: b.flips side s).Nodup := by
    refine List.nodup_cons.2 ⟨fun hmem => ?_, b.nodup_flips side s⟩
    exact side.opponent.disc_ne_empty ((hother s hmem).symm.trans hfree)
  have hturned : mix (fun q => z.squareKey q side.disc ^^^ z.squareKey q (b.get q))
        (b.flips side s) =
      mix (fun q => z.word side q ^^^ z.word side.opponent q) (b.flips side s) := by
    refine mix_congr fun q hq => ?_
    simp only [hother q hq, squareKey_disc]
  have hempty : z.squareKey s .empty = 0 := rfl
  rw [hash_turnover z _ t u, Board.place, hash_fill z b side hnodup, mix_cons, hturned, hfree,
    hempty, UInt64.xor_zero, squareKey_disc, change]

/-! ## Lines of play -/

/-- `z.Carries b t key c u last`: a line of placements and passes leads from `b`, with `t` to move,
to `c`, with `u` to move. On the way `key` becomes `last`: each ply adds its words and looks at
nothing else. -/
inductive Carries (z : Zobrist) (b : Board) (t : Option Side) (key : UInt64) :
    Board → Option Side → UInt64 → Prop where
  | here : Carries z b t key b t key
  | place {c : Board} {u : Option Side} {last : UInt64} {side : Side} {s : Square}
      (v : Option Side) : Carries z b t key c u last → s ∈ c.legalMoves side →
      Carries z b t key (c.place side s) v (last ^^^ z.change c side s ^^^ z.turnover u v)
  | pass {c : Board} {u : Option Side} {last : UInt64} (v : Option Side) :
      Carries z b t key c u last → Carries z b t key c v (last ^^^ z.turnover u v)

theorem Carries.eq_hash {last : UInt64} (h : z.Carries b t (z.hash b t) c u last) :
    last = z.hash c u := by
  induction h with
  | here => rfl
  | place v _ hs ih => rw [hash_place hs, ih]
  | pass v _ ih => rw [hash_turnover, ih]

theorem carries_of_leads (z : Zobrist) {t u : Side} {k : Nat} (h : b.Leads t k c u) :
    z.Carries b (some t) (z.hash b (some t)) c (some u) (z.hash c (some u)) := by
  induction h with
  | here => exact .here
  | @place _ c u s _ hs ih =>
    rw [hash_place hs (some u)]
    exact ih.place _ hs
  | @pass _ c u _ _ _ ih =>
    rw [hash_turnover z c (some u)]
    exact ih.pass _

/-- For any table of words: a placement of Black adds to the key of a board the first word of its
square, one of White the second; every disc that it turns adds both words of its square; and the
word of the side to move is added if that changes from or to White. So a key that is carried along a
line of play, ply by ply, is the key of the position that the line leads to; and lines that lead to
one position, from wherever they start, carry the same key there. -/
theorem hash_incremental (z : Zobrist) :
    (∀ (b next : Board) side p s t u, b.move side p = .ok (s, next) →
      z.hash next u = z.hash b t ^^^
        (if side = .black then (z.pieces.get s.index).1 else (z.pieces.get s.index).2) ^^^
        mix (fun q => if side = .black then (z.pieces.get q.index).1 ^^^ (z.pieces.get q.index).2
            else (z.pieces.get q.index).2 ^^^ (z.pieces.get q.index).1)
          (b.flipsAt side p) ^^^
        if t = some .white ↔ u = some .white then 0 else z.whiteToMove) ∧
      (∀ b t c u last, z.Carries b t (z.hash b t) c u last → last = z.hash c u) ∧
      (∀ b t k c u, b.Leads t k c u →
        z.Carries b (some t) (z.hash b (some t)) c (some u) (z.hash c (some u))) ∧
      ∀ b t b' t' c u last last', z.Carries b t (z.hash b t) c u last →
        z.Carries b' t' (z.hash b' t') c u last' → last = last' := by
  refine ⟨fun b next side p s t u hmove => ?_, fun b t c u last h => h.eq_hash,
    fun b t k c u h => z.carries_of_leads h,
    fun b t b' t' c u last last' h h' => h.eq_hash.trans h'.eq_hash.symm⟩
  obtain ⟨s', hs, rfl, hresult⟩ := Board.move_eq_ok hmove
  cases hresult
  rw [hash_place hs t u, Board.flipsAt_position, change, ← UInt64.xor_assoc]
  cases side <;> rfl

end Zobrist
end Reversi
