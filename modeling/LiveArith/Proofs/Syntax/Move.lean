import LiveArith.Proofs.Syntax.Shape

/-!
Moving a term along with its text. Where the bytes a term spans reappear in another text, moved from
`x` to `x + b - a`, the moved term is derived from the other text, and its tree is the old tree with
every offset moved (`Node.moveBy`).
-/

set_option autoImplicit false

namespace LiveArith.Syntax

open LiveArith.Syntax.Parser LiveArith.Syntax.Grammar

namespace Node

def moveBy (d : Int) : Node → Node
  | ⟨h, cs⟩ =>
    ⟨{ h with start := h.start + d, stop := h.stop + d }, cs.attach.map fun ⟨c, _⟩ => moveBy d c⟩

variable (d : Int) (n c : Node) (f : Field)

@[simp] theorem moveBy_start : (n.moveBy d).start = n.start + d := by obtain ⟨h, cs⟩ := n; rw [moveBy]; rfl
@[simp] theorem moveBy_stop : (n.moveBy d).stop = n.stop + d := by obtain ⟨h, cs⟩ := n; rw [moveBy]; rfl
@[simp] theorem moveBy_kind : (n.moveBy d).kind = n.kind := by obtain ⟨h, cs⟩ := n; rw [moveBy]; rfl
@[simp] theorem moveBy_sym : (n.moveBy d).sym = n.sym := by obtain ⟨h, cs⟩ := n; rw [moveBy]; rfl
@[simp] theorem moveBy_field : (n.moveBy d).field = n.field := by obtain ⟨h, cs⟩ := n; rw [moveBy]; rfl
@[simp] theorem moveBy_digest : (n.moveBy d).digest = n.digest := by obtain ⟨h, cs⟩ := n; rw [moveBy]; rfl
@[simp] theorem moveBy_nest : (n.moveBy d).nest = n.nest := by obtain ⟨h, cs⟩ := n; rw [moveBy]; rfl
@[simp] theorem moveBy_changed : (n.moveBy d).changed = n.changed := by obtain ⟨h, cs⟩ := n; rw [moveBy]; rfl
@[simp] theorem moveBy_hasError : (n.moveBy d).hasError = n.hasError := by obtain ⟨h, cs⟩ := n; rw [moveBy]; rfl

@[simp] theorem moveBy_children : (n.moveBy d).children = n.children.map (moveBy d) := by
  obtain ⟨h, cs⟩ := n
  simp [moveBy]

theorem moveBy_zero : n.moveBy 0 = n := by
  induction n using moveBy.induct with
  | case1 h cs ih =>
    rw [moveBy]
    congr 1
    · simp
    · simp only [List.map_attach_eq_pmap, List.pmap_eq_map]
      exact (List.map_congr_left ih).trans (List.map_id' cs)

theorem moveBy_mk (h : Head) (cs : List Node) :
    moveBy d ⟨h, cs⟩ = ⟨{ h with start := h.start + d, stop := h.stop + d }, cs.map (moveBy d)⟩ := by
  rw [moveBy]
  simp only [List.map_attach_eq_pmap, List.pmap_eq_map]

theorem moveBy_withField :
    (⟨{ c.head with field := f }, c.children⟩ : Node).moveBy d =
      ⟨{ (c.moveBy d).head with field := f }, (c.moveBy d).children⟩ := by
  obtain ⟨h, cs⟩ := c
  rw [moveBy, moveBy]

@[simp] theorem moveBy_push : (n.push f c).moveBy d = (n.moveBy d).push f (c.moveBy d) := by
  obtain ⟨h, cs⟩ := n
  rw [push, moveBy, moveBy, push]
  simp only [moveBy_hasError, List.map_attach_eq_pmap, List.pmap_eq_map, List.map_append,
    List.map_cons, List.map_nil, moveBy_withField]
  rfl

@[simp] theorem moveBy_leaf (k : Kind) (a b : Int) : (leaf k a b).moveBy d = leaf k (a + d) (b + d) := by
  rw [leaf, moveBy]
  rfl

@[simp] theorem moveBy_token (s : UInt8) (a : Int) : (token s a).moveBy d = token s (a + d) := by
  rw [token, moveBy, token]
  simp only [List.attach_nil, List.map_nil]
  congr 2
  omega

theorem detach_moveBy : (n.moveBy d).detach = n.detach.moveBy d := by
  obtain ⟨h, cs⟩ := n
  rw [moveBy, detach, detach, moveBy]

theorem child?_moveBy : (n.moveBy d).child? f = (n.child? f).map (moveBy d) := by
  simp only [child?, moveBy_children, List.find?_map]
  congr 2
  funext x
  simp

end Node

namespace Parser

variable {d : Int}

theorem moveBy_stamp {u u' : ByteArray} {n : Node}
    (hs : ∀ c rest, n.children = c :: rest → (c.kind = .number ∨ c.kind = .float) →
      Node.clampedSlice u' (c.start + d) (c.stop + d) = Node.clampedSlice u c.start c.stop) :
    (stamp (.ofText u 0) n).moveBy d = stamp (.ofText u' 0) (n.moveBy d) := by
  obtain ⟨h, cs⟩ := n
  rw [stamp, stamp]
  simp only [Node.moveBy_hasError, Node.moveBy_children]
  split
  · rfl
  cases cs with
  | nil => rfl
  | cons c rest =>
    have hlit : c.kind = .number ∨ c.kind = .float → Node.clampedSlice u' (c.start + d) (c.stop + d) =
        Node.clampedSlice u c.start c.stop := hs c rest rfl
    simp only [List.map_cons, Node.moveBy_kind, Node.moveBy_mk, ofText_src, Node.moveBy_start,
      Node.moveBy_stop]
    cases hk : c.kind
    all_goals simp only [hk, Node.moveBy_mk, List.map_cons] at hlit ⊢
    case number => rw [hlit (.inl trivial)]
    case float => rw [hlit (.inr trivial)]
    case parenthesized =>
      rw [Node.child?_moveBy]
      cases c.child? .inner <;> simp [Node.moveBy_mk]
    case binary =>
      rw [Node.child?_moveBy, Node.child?_moveBy, Node.child?_moveBy]
      cases c.child? .left <;> cases c.child? .operator <;> cases c.child? .right <;>
        simp [Node.moveBy_mk]

theorem moveBy_wrap {u u' : ByteArray} {c : Node}
    (hs : c.kind = .number ∨ c.kind = .float →
      Node.clampedSlice u' (c.start + d) (c.stop + d) = Node.clampedSlice u c.start c.stop) :
    (wrap (.ofText u 0) c).moveBy d = wrap (.ofText u' 0) (c.moveBy d) := by
  rw [wrap, @moveBy_stamp _ _ u' _, wrap]
  · simp
  · intro c' rest hc hk
    simp only [Node.push_children, Node.leaf_children, List.nil_append, List.cons.injEq] at hc
    rw [← hc.1] at hk ⊢
    exact hs hk

end Parser

namespace Grammar

/-- The bytes of `u` from `i` to `j` reappear in `u'` from `i + b - a`. -/
structure Moves (u u' : ByteArray) (a b i j : Nat) : Prop where
  after : a ≤ i
  fits : j + b ≤ u'.size + a
  same : ∀ x, i ≤ x → x < j → Utf8.byteAt u' (x + b - a) = Utf8.byteAt u x

variable {u u' : ByteArray} {a b : Nat}

theorem Moves.mono {i j i' j' : Nat} (h : Moves u u' a b i j) (hi : i ≤ i') (hj : j' ≤ j) :
    Moves u u' a b i' j' :=
  ⟨Nat.le_trans h.after hi, by have := h.fits; omega, fun x h1 h2 => h.same x (by omega) (by omega)⟩

theorem Run.move {P : UInt8 → Bool} {i j : Nat} (h : Run P u i j) (hm : Moves u u' a b i j) :
    Run P u' (i + b - a) (j + b - a) := by
  obtain ⟨hij, -, hall⟩ := h
  refine ⟨by have := hm.after; omega, by have := hm.fits; omega, fun k h1 h2 => ?_⟩
  have hk := hm.same (k + a - b) (by have := hm.after; omega) (by have := hm.after; omega)
  rw [show k + a - b + b - a = k by have := hm.after; omega] at hk
  rw [hk]
  exact hall _ (by have := hm.after; omega) (by have := hm.after; omega)

theorem Literal.move {f : Bool} {i j : Nat} (h : Literal u f i j) (hm : Moves u u' a b i j) :
    Literal u' f (i + b - a) (j + b - a) := by
  have ha := hm.after
  -- the sign, if any, is the byte at `i`
  have hsign : ∀ {c : Nat}, Sign u i c → c < j → Sign u' (i + b - a) (c + b - a) := by
    intro c hs hcj
    rcases hs with rfl | ⟨rfl, h45⟩
    · exact .inl rfl
    · exact .inr ⟨by omega, by rw [hm.same i (Nat.le_refl i) (by omega), h45]⟩
  cases h with
  | whole hs hd hlt =>
    rename_i c
    have hic : i ≤ c := by rcases hs with rfl | ⟨rfl, _⟩ <;> omega
    exact .whole (hsign hs hlt) (hd.move (hm.mono hic (Nat.le_refl j))) (by omega)
  | fraction hs hd hdot hd2 hlt =>
    rename_i c e
    have hic : i ≤ c := by rcases hs with rfl | ⟨rfl, _⟩ <;> omega
    have hce := hd.1
    have hej := hd2.1
    refine .fraction (hsign hs (by omega)) (hd.move (hm.mono hic (by omega))) ?_ ?_ (by omega)
    · rw [hm.same e (by omega) (by omega), hdot]
    · rw [show e + b - a + 1 = e + 1 + b - a by omega]
      exact hd2.move (hm.mono (by omega) (Nat.le_refl j))

namespace Term

def move (a b : Nat) : Term → Term
  | lit f i j => lit f (i + b - a) (j + b - a)
  | paren i t c => paren (i + b - a) (t.move a b) (c + b - a)
  | binary l op q r => binary (l.move a b) op (q + b - a) (r.move a b)

variable (a b : Nat) (t : Term)

@[simp] theorem start_move : (t.move a b).start = t.start + b - a := by
  induction t with
  | lit => rfl
  | paren => rfl
  | binary l op q r ihl _ => simp [move, start, ihl]

@[simp] theorem level_move : (t.move a b).level = t.level := by
  cases t <;> rfl

theorem grouped_move {t : Term} (h : Grouped t) : Grouped (t.move a b) := by
  induction t with
  | lit => trivial
  | paren i t c ih => exact ih h
  | binary l op q r ihl ihr => exact ⟨ihl h.1, ihr h.2.1, by simpa using h.2.2.1, by simpa using h.2.2.2⟩

end Term

theorem Derives.stop_move {t : Term} (hd : Derives u t) (ha : a ≤ t.start) :
    (t.move a b).stop = t.stop + b - a := by
  induction hd with
  | lit => rfl
  | paren _ hopen hd hclose _ =>
    have := hd.start_lt_stop
    have := hopen.1
    have := hclose.1
    simp only [Term.move, Term.stop, Term.start] at ha ⊢
    omega
  | binary hl hrun _ _ hrun2 _ _ ihr =>
    have := hl.start_lt_stop
    have := hrun.1
    have := hrun2.1
    exact ihr (by simp only [Term.start] at ha; omega)

theorem Derives.move {t : Term} (hd : Derives u t) (hm : Moves u u' a b t.start t.stop) :
    Derives u' (t.move a b) := by
  induction hd with
  | lit hl => exact .lit (hl.move hm)
  | paren h40 hopen hd hclose h41 ih =>
    rename_i i c t
    have ha := hm.after
    have hin := hd.start_lt_stop
    have h1 := hopen.1
    have h2 := hclose.1
    simp only [Term.start, Term.stop] at hm ha
    refine .paren ?_ ?_ (ih (hm.mono (by omega) (by omega))) ?_ ?_
    · rw [hm.same i (Nat.le_refl i) (by omega), h40]
    · rw [Term.start_move, show i + b - a + 1 = i + 1 + b - a by omega]
      exact hopen.move (hm.mono (by omega) (by omega))
    · rw [hd.stop_move (by omega)]
      exact hclose.move (hm.mono (by omega) (by omega))
    · rw [hm.same c (by omega) (by omega), h41]
  | binary hl hrun hop hpow hrun2 hr ihl ihr =>
    rename_i l r op q
    have ha := hm.after
    have hl' := hl.start_lt_stop
    have hr' := hr.start_lt_stop
    have h1 := hrun.1
    have h2 := hrun2.1
    simp only [Term.start, Term.stop] at hm ha
    refine .binary (ihl (hm.mono (Nat.le_refl _) (by omega))) ?_ ?_ hpow ?_
      (ihr (hm.mono (by omega) (Nat.le_refl _)))
    · rw [hl.stop_move ha]
      exact hrun.move (hm.mono (by omega) (by omega))
    · rw [hm.same q (by omega) (by omega), hop]
    · rw [Term.start_move, show q + b - a + 1 = q + 1 + b - a by omega]
      exact hrun2.move (hm.mono (by omega) (by omega))

theorem clampedSlice_nat {src : ByteArray} {i j : Nat} (hij : i ≤ j) (hj : j ≤ src.size) :
    Node.clampedSlice src i j = src.extract i j := by
  simp only [Node.clampedSlice]
  have hi' : (min (max (i : Int) 0) src.size).toNat = i := by omega
  have hj' : (min (max (j : Int) 0) src.size).toNat = j := by omega
  rw [hi', hj']
  split
  · next h => exact (ByteArray.extract_eq_empty_iff.2 (by omega)).symm
  · rfl

theorem byteAt_of_lt {src : ByteArray} {x : Nat} (h : x < src.size) : Utf8.byteAt src x = src[x] := by
  simp [Utf8.byteAt, h]

theorem Moves.extract {i j : Nat} (hm : Moves u u' a b i j) (hij : i ≤ j) (hj : j ≤ u.size) :
    u'.extract (i + b - a) (j + b - a) = u.extract i j := by
  have ha := hm.after
  have hfit := hm.fits
  obtain ⟨len, rfl⟩ : ∃ len, j = i + len := ⟨j - i, by omega⟩
  rw [show i + len + b - a = i + b - a + len by omega,
    ByteArray.extract_eq_extract_iff_getElem (by omega) (by omega)]
  intro k hk
  rw [← byteAt_of_lt (by omega), ← byteAt_of_lt (by omega), show i + b - a + k = i + k + b - a by omega]
  exact hm.same (i + k) (by omega) (by omega)

theorem Derives.node_move {t : Term} (hd : Derives u t) (hm : Moves u u' a b t.start t.stop) :
    (t.move a b).node u' = (t.node u).moveBy ((b : Int) - a) := by
  induction hd with
  | @lit f i j hl =>
    have hij := hl.lt
    have hj := hl.le_size
    have ha := hm.after
    simp only [Term.start, Term.stop] at hm ha
    simp only [Term.move, Term.node]
    rw [@moveBy_wrap _ _ u' _ fun _ => ?_, Node.moveBy_leaf]
    · congr 2 <;> omega
    · rw [Node.leaf_start, Node.leaf_stop, show (i : Int) + (b - a) = ((i + b - a : Nat) : Int) by omega,
        show (j : Int) + (b - a) = ((j + b - a : Nat) : Int) by omega,
        clampedSlice_nat (by omega) (by have := hm.fits; omega), clampedSlice_nat (by omega) hj]
      exact hm.extract (by omega) hj
  | paren h40 hopen hd hclose h41 ih =>
    rename_i i c t
    have ha := hm.after
    have hin := hd.start_lt_stop
    have h1 := hopen.1
    have h2 := hclose.1
    simp only [Term.start, Term.stop] at hm ha
    simp only [Term.move, Term.node]
    rw [@moveBy_wrap _ _ u' _ (by simp)]
    simp only [Node.moveBy_push, Node.moveBy_leaf, Node.moveBy_token]
    rw [← ih (hm.mono (by omega) (by omega)),
      show ((c + b - a : Nat) : Int) + 1 = c + 1 + (b - a) by omega,
      show ((c + b - a : Nat) : Int) = c + (b - a) by omega,
      show ((i + b - a : Nat) : Int) = i + (b - a) by omega]
  | binary hl hrun hop hpow hrun2 hr ihl ihr =>
    rename_i l r op q
    have ha := hm.after
    have hl' := hl.start_lt_stop
    have hr' := hr.start_lt_stop
    have h1 := hrun.1
    have h2 := hrun2.1
    simp only [Term.start, Term.stop] at hm ha
    simp only [Term.move, Term.node]
    rw [@moveBy_wrap _ _ u' _ (by simp)]
    simp only [Node.moveBy_push, Node.moveBy_leaf, Node.moveBy_token, Term.start_move,
      hr.stop_move (show a ≤ r.start by omega)]
    rw [← ihl (hm.mono (Nat.le_refl _) (by omega)), ← ihr (hm.mono (by omega) (Nat.le_refl _))]
    congr <;> omega

theorem Good.move {n : Node} (hg : Good u n) (hm : Moves u u' a b n.start.toNat n.stop.toNat) :
    Good u' (n.moveBy ((b : Int) - a)) := by
  obtain ⟨t, hl, hd, hgr, hn⟩ := hg
  have hs : n.start = t.start := by rw [← Node.detach_start, hn, Term.node_start]
  have ht : n.stop = t.stop := by rw [← Node.detach_stop, hn, Term.node_stop]
  simp only [hs, ht, Int.toNat_natCast] at hm
  refine ⟨t.move a b, by simpa using hl, hd.move hm, Term.grouped_move a b hgr, ?_⟩
  rw [Node.detach_moveBy, hn, hd.node_move hm]

end Grammar

end LiveArith.Syntax
