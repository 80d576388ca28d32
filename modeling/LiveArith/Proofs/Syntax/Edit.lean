import Mathlib
import LiveArith.Proofs.Syntax.Move

/-!
What an edit keeps. An edit that truthfully describes how a text changed (`Describes`) leaves every
node before it as it was, moves every node after it with the bytes it spans, and marks every node it
touches as changed.
-/

set_option autoImplicit false

namespace LiveArith.Word

theorem wrap_of_bounds {x : Int} (h : -2 ^ 63 ≤ x) (h' : x < 2 ^ 63) : wrap x = x :=
  Int64.toInt_ofInt_of_le h h'

end LiveArith.Word

namespace LiveArith.Syntax

open LiveArith.Syntax.Parser LiveArith.Syntax.Grammar

namespace Node

variable (e : InputEdit) {n : Node}

@[simp] theorem shift_start (d : Int) : (n.shift d).start = Word.wrap (n.start + d) := by
  obtain ⟨h, cs⟩ := n
  rw [shift]
  rfl

@[simp] theorem shift_stop (d : Int) : (n.shift d).stop = Word.wrap (n.stop + d) := by
  obtain ⟨h, cs⟩ := n
  rw [shift]
  rfl

theorem shift_eq_moveBy {d : Int}
    (h : All (fun m => Word.wrap m.start = m.start ∧ Word.wrap m.stop = m.stop) (n.moveBy d)) :
    n.shift d = n.moveBy d := by
  induction n using moveBy.induct with
  | case1 hd cs ih =>
    have hw := h.self
    simp only [moveBy_start, moveBy_stop] at hw
    rw [shift, moveBy_mk]
    simp only [List.map_attach_eq_pmap, List.pmap_eq_map]
    congr 1
    · simp only [start, stop] at hw
      rw [hw.1, hw.2]
    · refine List.map_congr_left fun c hc => ih c hc ?_
      exact h.child (by simpa [moveBy_mk] using List.mem_map_of_mem hc)

@[simp] theorem operand_moveBy (d : Int) : operand (n.moveBy d) = operand n := by
  unfold operand
  rw [moveBy_children, moveBy_kind, moveBy_digest, moveBy_hasError]
  cases n.children <;> simp

theorem editAll_fst (cs : List Node) : (editAll e cs).1 = cs.map fun c => (edit e c).1 := by
  induction cs with
  | nil => rfl
  | cons c cs ih => rw [List.map_cons, ← ih, editAll]

theorem edit_kept (h : n.stop < e.start) : (n.edit e).1 = n := by
  obtain ⟨hd, cs⟩ := n
  rw [edit, if_pos (show hd.stop < e.start from h)]

theorem edit_moved (h : e.start ≤ n.stop) (h' : e.oldStop < n.start) :
    (n.edit e).1 = n.shift (e.newStop - e.oldStop) := by
  obtain ⟨hd, cs⟩ := n
  rw [edit, if_neg (show ¬ hd.stop < e.start from Int.not_lt.2 h),
    if_pos (show hd.start > e.oldStop from h')]

theorem edit_touched (h : e.start ≤ n.stop) (h' : n.start ≤ e.oldStop) :
    (n.edit e).1 = ⟨{ n.head with
        start := if n.start > e.start then e.start else n.start,
        stop := max (if n.stop ≥ e.oldStop then Word.wrap (n.stop + (e.newStop - e.oldStop))
          else e.newStop) (if n.start > e.start then e.start else n.start),
        changed := true }, n.children.map fun c => (c.edit e).1⟩ := by
  obtain ⟨hd, cs⟩ := n
  rw [edit, if_neg (show ¬ hd.stop < e.start from Int.not_lt.2 h),
    if_neg (show ¬ hd.start > e.oldStop from Int.not_lt.2 h'), ← editAll_fst]
  rfl

end Node

namespace Grammar

/-- What an edited tree keeps of a parse of its text: every node spans part of the text inside
its parent's span, and every unchanged operand is a node a parse of the text may take over. -/
structure Placed (u : ByteArray) (n : Node) : Prop where
  inside : 0 ≤ n.start
  ordered : n.start ≤ n.stop
  within : n.stop ≤ u.size
  nested : ∀ c ∈ n.children, n.start ≤ c.start ∧ c.stop ≤ n.stop
  good : n.changed = false → Node.operand n = true → Good u n

variable {u : ByteArray} {n : Node}

theorem placed_of_fine (h : Node.All (Fine u) n) (hs : 0 ≤ n.start) (ht : n.stop ≤ u.size) :
    Node.All (Placed u) n := by
  induction h with
  | intro hf _ ih =>
    refine .intro ⟨hs, hf.ordered, ht, hf.nested, fun _ => hf.good⟩ fun c hc => ?_
    have := hf.nested c hc
    exact ih c hc (by omega) (by omega)

theorem Placed.bounds (hp : Placed u n) : 0 ≤ n.start ∧ n.start ≤ n.stop ∧ n.stop ≤ u.size :=
  ⟨hp.inside, hp.ordered, hp.within⟩

theorem Placed.wrapped (hp : Placed u n) (hu : u.size < 2 ^ 63) :
    Word.wrap n.start = n.start ∧ Word.wrap n.stop = n.stop := by
  have := hp.bounds
  exact ⟨Word.wrap_of_bounds (by omega) (by omega), Word.wrap_of_bounds (by omega) (by omega)⟩

end Grammar

/-- The edit `e` says truthfully how `u` became `u'`: the bytes before `e.start` are kept, the
old bytes from `e.oldStop` on are the new bytes from `e.newStop` on, and both texts have
lengths that 64-bit offsets hold. -/
structure Describes (e : InputEdit) (u u' : ByteArray) : Prop where
  start : 0 ≤ e.start
  le_old : e.start ≤ e.oldStop
  le_new : e.start ≤ e.newStop
  old_le : e.oldStop ≤ u.size
  new_le : e.newStop ≤ u'.size
  before : u.extract 0 e.start.toNat = u'.extract 0 e.start.toNat
  after : u.extract e.oldStop.toNat u.size = u'.extract e.newStop.toNat u'.size
  short : u.size < 2 ^ 63
  short' : u'.size < 2 ^ 63

theorem byteAt_of_extract {as bs : ByteArray} {i j n k : Nat}
    (h : as.extract i (i + n) = bs.extract j (j + n)) (hi : i + n ≤ as.size)
    (hj : j + n ≤ bs.size) (hk : k < n) : Utf8.byteAt as (i + k) = Utf8.byteAt bs (j + k) := by
  rw [byteAt_of_lt (by omega), byteAt_of_lt (by omega)]
  exact (ByteArray.extract_eq_extract_iff_getElem hi hj).1 h k hk

namespace Describes

variable {e : InputEdit} {u u' : ByteArray} (hd : Describes e u u')
include hd

theorem size_eq : (u.size : Int) - e.oldStop = u'.size - e.newStop := by
  have h := congrArg ByteArray.size hd.after
  simp only [ByteArray.size_extract, Nat.min_self] at h
  have := hd.old_le
  have := hd.new_le
  have := hd.start
  have := hd.le_old
  have := hd.le_new
  omega

theorem offsets : 0 ≤ e.start ∧ e.start ≤ e.oldStop ∧ e.start ≤ e.newStop ∧ e.oldStop ≤ u.size ∧
    e.newStop ≤ u'.size ∧ (u.size : Int) - e.oldStop = u'.size - e.newStop ∧ u.size < 2 ^ 63 ∧
    u'.size < 2 ^ 63 :=
  ⟨hd.start, hd.le_old, hd.le_new, hd.old_le, hd.new_le, hd.size_eq, hd.short, hd.short'⟩

theorem prefix_byte {x : Nat} (hx : (x : Int) < e.start) : Utf8.byteAt u' x = Utf8.byteAt u x := by
  have := hd.offsets
  have h := byteAt_of_extract (i := 0) (j := 0) (n := e.start.toNat) (k := x)
    (by simpa using hd.before) (by omega) (by omega) (by omega)
  simpa using h.symm

theorem suffix_byte {x : Nat} (hx : e.oldStop ≤ x) (hxs : x < u.size) :
    Utf8.byteAt u' (x + e.newStop.toNat - e.oldStop.toNat) = Utf8.byteAt u x := by
  have := hd.offsets
  have hs := hd.size_eq
  have h := byteAt_of_extract (i := e.oldStop.toNat) (j := e.newStop.toNat)
    (n := u.size - e.oldStop.toNat) (k := x - e.oldStop.toNat)
    (by rw [show e.oldStop.toNat + (u.size - e.oldStop.toNat) = u.size by omega,
      show e.newStop.toNat + (u.size - e.oldStop.toNat) = u'.size by omega]; exact hd.after)
    (by omega) (by omega) (by omega)
  rw [show e.oldStop.toNat + (x - e.oldStop.toNat) = x by omega,
    show e.newStop.toNat + (x - e.oldStop.toNat) = x + e.newStop.toNat - e.oldStop.toNat by omega] at h
  exact h.symm

theorem kept_placed {n : Node} (hn : Node.All (Placed u) n) (hs : n.stop < e.start) :
    Node.All (Placed u') n := by
  have := hd.offsets
  induction hn with
  | @intro n hp _ ih =>
    refine .intro ⟨hp.inside, hp.ordered, by omega, hp.nested, fun hc ho => ?_⟩ fun c hc => ?_
    · have hm : Moves u u' 0 0 n.start.toNat n.stop.toNat :=
        ⟨Nat.zero_le _, by omega, fun x _ hx => by simpa using hd.prefix_byte (by omega)⟩
      simpa [Node.moveBy_zero] using (hp.good hc ho).move hm
    · exact ih c hc (by have := hp.nested c hc; omega)

theorem moved_placed {n : Node} (hn : Node.All (Placed u) n) (hs : e.oldStop < n.start) :
    Node.All (Placed u') (n.moveBy (e.newStop - e.oldStop)) := by
  have := hd.offsets
  induction hn with
  | @intro n hp _ ih =>
    have := hp.bounds
    refine .intro ⟨?_, ?_, ?_, fun c hc => ?_, fun hc ho => ?_⟩ fun c hc => ?_
    · simp only [Node.moveBy_start]
      omega
    · simp only [Node.moveBy_start, Node.moveBy_stop]
      omega
    · simp only [Node.moveBy_stop]
      omega
    · rw [Node.moveBy_children] at hc
      obtain ⟨c₀, hc₀, rfl⟩ := List.mem_map.1 hc
      have := hp.nested c₀ hc₀
      simp only [Node.moveBy_start, Node.moveBy_stop]
      omega
    · have hm : Moves u u' e.oldStop.toNat e.newStop.toNat n.start.toNat n.stop.toNat :=
        ⟨by omega, by omega, fun x hx hx' => hd.suffix_byte (by omega) (by omega)⟩
      have hg := (hp.good (by simpa using hc) (by simpa using ho)).move hm
      rwa [show ((e.newStop.toNat : Nat) : Int) - e.oldStop.toNat = e.newStop - e.oldStop by omega]
        at hg
    · rw [Node.moveBy_children] at hc
      obtain ⟨c₀, hc₀, rfl⟩ := List.mem_map.1 hc
      exact ih c₀ hc₀ (by have := hp.nested c₀ hc₀; omega)

theorem touched_eq {n : Node} (hp : Placed u n) (h : e.start ≤ n.stop) (h' : n.start ≤ e.oldStop) :
    (n.edit e).1 = ⟨{ n.head with
        start := min n.start e.start,
        stop := max (n.stop + (e.newStop - e.oldStop)) e.newStop,
        changed := true }, n.children.map fun c => (c.edit e).1⟩ := by
  have := hd.offsets
  have := hp.bounds
  have hs : (if n.start > e.start then e.start else n.start) = min n.start e.start := by
    split <;> omega
  have ht : max (if n.stop ≥ e.oldStop then Word.wrap (n.stop + (e.newStop - e.oldStop))
      else e.newStop) (min n.start e.start) = max (n.stop + (e.newStop - e.oldStop)) e.newStop := by
    split
    · rw [Word.wrap_of_bounds (by omega) (by omega)]
      omega
    · omega
  rw [Node.edit_touched e h h', hs, ht]

theorem edit_span {n : Node} (hp : Placed u n) :
    min n.start e.start ≤ (n.edit e).1.start ∧
      (n.edit e).1.stop ≤ max (n.stop + (e.newStop - e.oldStop)) e.newStop := by
  have := hd.offsets
  have := hp.bounds
  by_cases hk : n.stop < e.start
  · rw [Node.edit_kept e hk]
    omega
  by_cases hm : e.oldStop < n.start
  · rw [Node.edit_moved e (by omega) hm, Node.shift_start, Node.shift_stop,
      Word.wrap_of_bounds (by omega) (by omega), Word.wrap_of_bounds (by omega) (by omega)]
    omega
  · rw [hd.touched_eq hp (by omega) (by omega)]
    simp only [Node.mk_start, Node.mk_stop]
    omega

theorem placed_edit {n : Node} (hn : Node.All (Placed u) n) : Node.All (Placed u') (n.edit e).1 := by
  have := hd.offsets
  induction hn with
  | @intro n hp hcs ih =>
    by_cases hk : n.stop < e.start
    · rw [Node.edit_kept e hk]
      exact hd.kept_placed (.intro hp hcs) hk
    by_cases hm : e.oldStop < n.start
    · have hmv := hd.moved_placed (.intro hp hcs) hm
      rw [Node.edit_moved e (by omega) hm,
        Node.shift_eq_moveBy (hmv.imp fun m hm => hm.wrapped hd.short')]
      exact hmv
    -- the edit touches the node: it is marked changed and its children are edited in turn
    rw [hd.touched_eq hp (by omega) (by omega)]
    have := hp.bounds
    refine .intro ⟨?_, ?_, ?_, fun c hc => ?_, fun h => by cases h⟩ fun c hc => ?_
    · simp only [Node.mk_start]
      omega
    · simp only [Node.mk_start, Node.mk_stop]
      omega
    · simp only [Node.mk_stop]
      omega
    · obtain ⟨c₀, hc₀, rfl⟩ := List.mem_map.1 hc
      have := hp.nested c₀ hc₀
      have := hd.edit_span (hcs c₀ hc₀).self
      simp only [Node.mk_start, Node.mk_stop]
      omega
    · obtain ⟨c₀, hc₀, rfl⟩ := List.mem_map.1 hc
      exact ih c₀ hc₀

end Describes

namespace Node

theorem collect_eq (idx : ReuseIndex) (n : Node) : collect idx n =
    if n.changed then collectAll idx n.children
    else if operand n then idx.insert n.start n else collectAll idx n.children := by
  obtain ⟨h, cs⟩ := n
  rw [collect]
  rfl

/-- Every node of the index sits under its start and has `P`. -/
def Keyed (P : Node → Prop) (R : ReuseIndex) : Prop :=
  ∀ k m, R.get? k = some m → m.start = k ∧ P m

theorem Keyed.insert {P : Node → Prop} {R : ReuseIndex} {n : Node} (hR : Keyed P R) (hn : P n) :
    Keyed P (R.insert n.start n) := by
  intro k m h
  rw [Std.HashMap.get?_insert] at h
  split at h
  · next heq =>
    cases h
    exact ⟨beq_iff_eq.1 heq, hn⟩
  · exact hR k m h

/-- Collecting a tree keeps an index keyed by a property every unchanged operand of it has. -/
theorem Keyed.collect {P : Node → Prop} {R : ReuseIndex} {n : Node} (hR : Keyed P R)
    (hn : All (fun m => m.changed = false → operand m = true → P m) n) :
    Keyed P (collect R n) := by
  induction hn generalizing R with
  | @intro n hp _ ih =>
    -- the children are collected one after another, each into the index the last one left
    have hall : ∀ (cs : List Node) (R : ReuseIndex), (∀ c ∈ cs, c ∈ n.children) →
        Keyed P R → Keyed P (collectAll R cs) := by
      intro cs
      induction cs with
      | nil => exact fun R _ hR => hR
      | cons c cs ihc =>
        intro R hsub hR
        rw [collectAll]
        exact ihc _ (fun c' hc' => hsub c' (List.mem_cons_of_mem c hc'))
          (ih c (hsub c List.mem_cons_self) hR)
    rw [collect_eq]
    split
    · exact hall n.children R (fun _ hc => hc) hR
    · split
      · next hc ho => exact hR.insert (hp (by simpa using hc) ho)
      · exact hall n.children R (fun _ hc => hc) hR

end Node

namespace Grammar

variable {u : ByteArray}

theorem Faithful.collect {R : Node.ReuseIndex} {n : Node} (hR : Faithful u R)
    (hn : Node.All (Placed u) n) : Faithful u (Node.collect R n) :=
  Node.Keyed.collect hR (hn.imp fun _ hp hc ho => hp.good hc ho)

def Offers (u : ByteArray) (T : Tree) : Prop :=
  ∀ r, T.root = some r → T.length = u.size ∧ Node.All (Placed u) r

theorem Offers.faithful {T : Tree} (hT : Offers u T) : Faithful u T.reusable := by
  unfold Tree.reusable
  split
  · exact faithful_empty
  · next r hr => exact faithful_empty.collect (hT r hr).2

end Grammar

theorem Tree.edit_of_root {T : Tree} {r : Node} {e : InputEdit} (hr : T.root = some r)
    (hv : e.valid = true) : T.edit e = { T with
      root := some (r.edit e).1,
      changed := T.changed + (r.edit e).2,
      length := (max (Word.wrap ((T.length : Int) + e.newStop - e.oldStop)) 0).toNat } := by
  unfold Tree.edit
  rw [hr]
  simp [hv]

theorem Tree.edit_of_none {T : Tree} {e : InputEdit} (hr : T.root = none) : T.edit e = T := by
  unfold Tree.edit
  rw [hr]

theorem Describes.offers_edit {e : InputEdit} {u u' : ByteArray} (hd : Describes e u u')
    {T : Tree} (hT : Offers u T) : Offers u' (T.edit e) := by
  have := hd.offsets
  cases hr : T.root with
  | none =>
    intro r h
    rw [Tree.edit_of_none hr, hr] at h
    cases h
  | some r =>
    obtain ⟨hl, hp⟩ := hT r hr
    have hv : e.valid = true := by simp [InputEdit.valid]; omega
    rw [Tree.edit_of_root hr hv]
    rintro _ ⟨⟩
    refine ⟨?_, hd.placed_edit hp⟩
    dsimp only
    rw [hl, Word.wrap_of_bounds (by omega) (by omega)]
    omega

end LiveArith.Syntax
