import LiveArith.Proofs.Syntax.Regroup

/-!
Soundness of the parser. Whatever error-free node the parser returns for an expression is the tree
of a term that the text derives, grouped by precedence, nested within the depth limit, and the climb
that built it stopped before an operator binding more loosely than it was allowed.
-/

set_option autoImplicit false

namespace LiveArith.Syntax

open Grammar

namespace Node

@[simp] theorem clean_absent (k : Kind) (s : UInt8) (a : Int) : (absent k s a).clean = false := by
  simp [clean, absent, every, Head.sound]

end Node

namespace Parser

variable (I : Input)

@[simp] theorem clean_errorToEnd (p : Nat) : (errorToEnd I p).clean = false := by
  simp [errorToEnd]

@[simp] theorem clean_binaryNode (l : Node) (c : UInt8) (q : Nat) (r : Node) :
    (binaryNode l c q r).clean = (l.clean && r.clean) := by
  simp [binaryNode]

@[simp] theorem clean_parenNode (q : Nat) (inner close : Node) :
    (parenNode q inner close).clean = (inner.clean && close.clean) := by
  simp [parenNode]

theorem climb_clean {m d : Nat} {L n : Node} {p k pos : Nat}
    (h : (climb I m L p d k).result = (some n, pos)) (hn : n.clean = true) : L.clean = true := by
  induction hs : I.src.size - p using Nat.strongRecOn generalizing L p k with
  | ind s ih =>
  obtain ⟨q, hq⟩ : ∃ q, skipBlank I p = q := ⟨_, rfl⟩
  obtain ⟨c, hc⟩ : ∃ c, peek I q = c := ⟨_, rfl⟩
  by_cases hgo : 0 < power c ∧ m ≤ power c ∧ q < I.src.size
  · obtain ⟨hpow, hm, hqs⟩ := hgo
    have hpq : p ≤ q := hq ▸ le_skipBlank I p
    rw [climb_step I hq hc hpow hm hqs] at h
    generalize expression I (rightBound c) (skipBlank I (q + 1)) d k = E at h
    obtain ⟨node, pos', k', hle⟩ := E
    have hq1 := le_skipBlank I (q + 1)
    cases node with
    | none =>
      simp only [Prod.mk.injEq, Option.some.injEq] at h
      obtain ⟨rfl, -⟩ := h
      simp [wrap] at hn
    | some rhs =>
      have := ih (I.src.size - pos') (by omega) h rfl
      simp only [clean_stamp, wrap, Node.clean_push, Node.clean_leaf, clean_binaryNode] at this
      simp_all
  · rw [climb_stop I hq hc (by omega)] at h
    simp only [Prod.mk.injEq, Option.some.injEq] at h
    exact h.1 ▸ hn

end Parser

open LiveArith.Syntax.Parser

namespace Grammar

variable {src : ByteArray} {D : Nat}

theorem Run.trans {P : UInt8 → Bool} {i j k : Nat} (h1 : Run P src i j) (h2 : Run P src j k) :
    Run P src i k :=
  ⟨Nat.le_trans h1.1 h2.1, h2.2.1, fun x hx1 hx2 => by
    by_cases hx : x < j
    · exact h1.2.2 x hx1 hx
    · exact h2.2.2 x (Nat.le_of_not_lt hx) hx2⟩

theorem leftBound_le_of_lt_rightBound {c op : UInt8} (h : power c < rightBound op) :
    leftBound c ≤ power op := by
  unfold leftBound
  unfold rightBound at h
  cases h1 : rightAssoc c <;> cases h2 : rightAssoc op <;>
    simp only [h2, if_true, if_false, Bool.false_eq_true] at h ⊢
  · omega
  · omega
  · have := power_of_rightAssoc h1
    have := power_lt_of_not_rightAssoc h2
    omega
  · have := power_of_rightAssoc h1
    have := power_of_rightAssoc h2
    omega

theorem power_le_rightBound (op : UInt8) : power op ≤ rightBound op := by
  unfold rightBound
  omega

def Halts (src : ByteArray) (m j : Nat) : Prop :=
  ∀ q, Run Node.blank src j q → Node.blank (Utf8.byteAt src q) = false →
    power (Utf8.byteAt src q) < m

theorem halts_of_stop {m j q : Nat} (hrun : Run Node.blank src j q)
    (hb : Node.blank (Utf8.byteAt src q) = false) (hm : 1 ≤ m)
    (h : ¬(0 < power (Utf8.byteAt src q) ∧ m ≤ power (Utf8.byteAt src q) ∧ q < src.size)) :
    Halts src m j := by
  intro q' hq' hb'
  rw [Run.unique_end hq' hrun hb' hb]
  by_cases hqs : q < src.size
  · omega
  · have hz : Utf8.byteAt src q = 0 := by simp [Utf8.byteAt, hqs]
    rw [hz]
    exact Nat.lt_of_lt_of_le (by decide) hm

def Takes (src : ByteArray) (m : Nat) (t : Term) : Prop :=
  ∀ q, Run Node.blank src t.stop q → Node.blank (Utf8.byteAt src q) = false →
    0 < power (Utf8.byteAt src q) → m ≤ power (Utf8.byteAt src q) →
    leftBound (Utf8.byteAt src q) ≤ t.level

/-- The node and cursor returned from `p` at depth `d` are those of the term `t`. -/
structure Reads (src : ByteArray) (D p d : Nat) (n : Node) (pos : Nat) (t : Term) : Prop where
  derives : Derives src t
  grouped : Grouped t
  node : n = t.node src
  stop : pos = t.stop
  blanks : Run Node.blank src p t.start
  depth : d + t.depth ≤ D

theorem Reads.widen {p q d pos : Nat} {n : Node} {t : Term} (hpq : Run Node.blank src p q)
    (h : Reads src D q d n pos t) : Reads src D p d n pos t :=
  { h with blanks := hpq.trans h.blanks }

def ExprSound (src : ByteArray) (D p : Nat) : Prop :=
  ∀ m d k n pos, 1 ≤ m → m ≤ 4 → d ≤ D →
    (expression (.ofText src D) m p d k).result = (some n, pos) → n.clean = true →
    ∃ t, Reads src D p d n pos t ∧ m ≤ t.level ∧ Halts src m t.stop

section sound

variable {p : Nat} (ih : ∀ p', p < p' → p' ≤ src.size → ExprSound src D p')
include ih

theorem paren_sound {d k pos : Nat} {n : Node} (h40 : Utf8.byteAt src p = 40)
    (hps : p < src.size) (h : (parenthesized (.ofText src D) p d k).result = (some n, pos))
    (hn : n.clean = true) : ∃ t, Reads src D p d n pos t ∧ t.level = 4 := by
  by_cases hdeep : D ≤ d
  · rw [parenthesized_deep _ hdeep] at h
    simp only [Prod.mk.injEq, Option.some.injEq] at h
    rw [← h.1] at hn
    simp at hn
  have hdD : d < D := Nat.lt_of_not_le hdeep
  by_cases hempty : peek (.ofText src D) (skipBlank (.ofText src D) (p + 1)) = 41 ∧
      skipBlank (.ofText src D) (p + 1) < src.size
  · rw [parenthesized_empty _ hdD hps hempty.1 hempty.2] at h
    simp only [Prod.mk.injEq, Option.some.injEq] at h
    rw [← h.1] at hn
    simp at hn
  rw [parenthesized_inner _ hdD hps hempty] at h
  dsimp only at h
  obtain ⟨hrun1, _⟩ := run_skipBlank (.ofText src D) (p := p + 1) hps
  have hE := ih (skipBlank (.ofText src D) (p + 1)) (Nat.lt_of_lt_of_le (Nat.lt_succ_self p)
    hrun1.1) hrun1.le_size 1 (d + 1) k
  generalize expression (.ofText src D) 1 (skipBlank (.ofText src D) (p + 1)) (d + 1) k = E at h hE
  obtain ⟨node, pos', k', hle⟩ := E
  cases node with
  | none =>
    split at h <;>
    · simp only [Prod.mk.injEq, Option.some.injEq] at h
      rw [← h.1] at hn
      simp [wrap] at hn
  | some inner =>
    simp only [Option.getD_some] at h
    split at h
    · next hclose =>
      simp only [Prod.mk.injEq, Option.some.injEq] at h
      obtain ⟨rfl, rfl⟩ := h
      have hic : inner.clean = true := by
        simp only [wrap, clean_stamp, Node.clean_push, Node.clean_leaf, clean_parenNode] at hn
        simp_all
      obtain ⟨ti, hr, -, -⟩ := hE inner pos' (Nat.le_refl 1) (by decide) (by omega) rfl hic
      obtain ⟨hd, hg, rfl, rfl, hblank, hdep⟩ := hr
      obtain ⟨hrun2, _⟩ := run_skipBlank (.ofText src D) (p := ti.stop) hd.stop_le_size
      refine ⟨.paren p ti (skipBlank (.ofText src D) ti.stop), ⟨?_, hg, ?_, rfl, Run.refl (Nat.le_of_lt hps),
        by simp only [Term.depth]; omega⟩, rfl⟩
      · exact .paren h40 (hrun1.trans hblank) hd hrun2 hclose.1
      · exact wrap_parenNode (I := .ofText src D) src rfl hrun2.1
    · simp only [Prod.mk.injEq, Option.some.injEq] at h
      rw [← h.1] at hn
      simp [wrap] at hn

theorem operand_sound {d k pos : Nat} {n : Node} (hp : p ≤ src.size) (hdD : d ≤ D)
    (h : (operand (.ofText src D) p d k).result = (some n, pos)) (hn : n.clean = true) :
    ∃ t, Reads src D p d n pos t ∧ t.level = 4 := by
  rw [operand_fresh _ (ofText_get? _)] at h
  obtain ⟨hrun, _⟩ := run_skipBlank (.ofText src D) hp
  rcases fresh_cases (.ofText src D) (le_skipBlank _ p) (d := d) (r := k) with
    ⟨hf, h40, hqs⟩ | ⟨kind, e, hf, hscan, hlt⟩ | hf
  · -- an opening parenthesis: the rest of the text is read one level deeper
    rw [hf] at h
    obtain ⟨t, hr, hlev⟩ := paren_sound (fun p' hlt hle => ih p' (Nat.lt_of_le_of_lt hrun.1 hlt) hle)
      h40 hqs h hn
    exact ⟨t, hr.widen hrun, hlev⟩
  · -- a literal
    rw [hf] at h
    simp only [Prod.mk.injEq, Option.some.injEq] at h
    obtain ⟨rfl, rfl⟩ := h
    obtain ⟨fl, rfl, hl⟩ := literal_of_scanNumber (.ofText src D) hrun.le_size hscan hlt
    exact ⟨.lit fl _ e, ⟨.lit hl, trivial, rfl, rfl, hrun, by simp only [Term.depth]; omega⟩, rfl⟩
  · rw [hf] at h
    simp at h

theorem climb_sound {m d k pos : Nat} {n : Node} {tl : Term} (hp : p ≤ tl.stop)
    (hd : Derives src tl) (hg : Grouped tl) (hm : m ≤ tl.level) (hm1 : 1 ≤ m)
    (hdep : d + tl.depth ≤ D) (htakes : Takes src m tl)
    (h : (climb (.ofText src D) m (tl.node src) tl.stop d k).result = (some n, pos))
    (hn : n.clean = true) :
    ∃ t, Reads src D tl.start d n pos t ∧ t.start = tl.start ∧ m ≤ t.level ∧ Halts src m t.stop := by
  induction hs : src.size - tl.stop using Nat.strongRecOn generalizing tl k with
  | ind s ihc =>
  obtain ⟨hrun, hb⟩ := run_skipBlank (.ofText src D) (p := tl.stop) hd.stop_le_size
  obtain ⟨q, hq⟩ : ∃ q, skipBlank (.ofText src D) tl.stop = q := ⟨_, rfl⟩
  obtain ⟨c, hc⟩ : ∃ c, peek (.ofText src D) q = c := ⟨_, rfl⟩
  rw [hq] at hrun hb
  by_cases hgo : 0 < power c ∧ m ≤ power c ∧ q < src.size
  · obtain ⟨hpow, hmc, hqs⟩ := hgo
    rw [climb_step _ hq hc hpow hmc hqs] at h
    obtain ⟨hrun1, _⟩ := run_skipBlank (.ofText src D) (p := q + 1) hqs
    have hE := ih (skipBlank (.ofText src D) (q + 1)) (by have := hrun.1; have := hrun1.1; omega)
      hrun1.le_size (rightBound c) d k
    generalize expression (.ofText src D) (rightBound c) (skipBlank (.ofText src D) (q + 1)) d k = E
      at h hE
    obtain ⟨node, pos', k', hle⟩ := E
    cases node with
    | none =>
      simp only [Prod.mk.injEq, Option.some.injEq] at h
      rw [← h.1] at hn
      simp [wrap] at hn
    | some rhs =>
      dsimp only at h
      have hrc : rhs.clean = true := by
        have := climb_clean _ h hn
        simp only [wrap, clean_stamp, Node.clean_push, Node.clean_leaf, clean_binaryNode] at this
        simp_all
      -- the right operand is a term bound at the operator's right bound
      obtain ⟨tr, ⟨hdr, hgr, rfl, rfl, hblank, hdepr⟩, hlev, hhalt⟩ :=
        hE rhs pos' (Nat.le_trans hpow (power_le_rightBound c)) (rightBound_le_four c) (by omega)
          rfl hrc
      have hbyte : Utf8.byteAt src q = c := hc
      have hqr : q < tr.stop := Nat.lt_of_lt_of_le (Nat.lt_succ_self q)
        (Nat.le_trans hrun1.1 (Nat.le_trans hblank.1 (Nat.le_of_lt hdr.start_lt_stop)))
      rw [wrap_binaryNode (I := .ofText src D) src rfl hqr] at h
      have htl' : Derives src (.binary tl c q tr) :=
        .binary hd hrun hbyte hpow (hrun1.trans hblank) hdr
      have hleft : leftBound c ≤ tl.level := by
        have := htakes q hrun hb (by rw [hbyte]; exact hpow) (by rw [hbyte]; exact hmc)
        rwa [hbyte] at this
      have hgl' : Grouped (.binary tl c q tr) := ⟨hg, hgr, hleft, hlev⟩
      have htakes' : Takes src m (.binary tl c q tr) := fun q' hq' hb' _ _ =>
        leftBound_le_of_lt_rightBound (hhalt q' hq' hb')
      obtain ⟨t, hr, hstart, hlevt, hhaltt⟩ := ihc (src.size - tr.stop)
        (by have := hdr.stop_le_size; have := hrun.1; omega)
        (show p ≤ (Term.binary tl c q tr).stop from
          Nat.le_trans hp (Nat.le_trans hrun.1 (Nat.le_of_lt hqr))) htl'
        hgl' hmc (by simp only [Term.depth]; omega) htakes' h rfl
      exact ⟨t, hr, hstart, hlevt, hhaltt⟩
  · rw [climb_stop _ hq hc (by simp only [ofText_src]; omega)] at h
    simp only [Prod.mk.injEq, Option.some.injEq] at h
    obtain ⟨rfl, rfl⟩ := h
    exact ⟨tl, ⟨hd, hg, rfl, rfl, Run.refl (Nat.le_of_lt (Nat.lt_of_lt_of_le hd.start_lt_stop
      hd.stop_le_size)), hdep⟩, rfl, hm,
      halts_of_stop hrun hb hm1 (by rw [show Utf8.byteAt src q = c from hc]; exact hgo)⟩

theorem expression_sound (hp : p ≤ src.size) : ExprSound src D p := by
  intro m d k n pos hm1 hm4 hdD h hn
  cases hop : (operand (.ofText src D) p d k).node with
  | none =>
    rw [expression_none _ hop] at h
    simp at h
  | some left =>
    rw [expression_some _ hop] at h
    have hres : (operand (.ofText src D) p d k).result =
        (some left, (operand (.ofText src D) p d k).pos) := by
      simp only [Parsed.result, hop]
    obtain ⟨t0, ⟨hd0, hg0, rfl, hstop, hblank, hdep0⟩, hlev0⟩ :=
      operand_sound ih hp hdD hres (climb_clean _ h hn)
    rw [hstop] at h
    have htakes : Takes src m t0 := fun q _ _ _ _ => hlev0 ▸ leftBound_le_four _
    obtain ⟨t, hr, hstart, hlev, hhalt⟩ :=
      climb_sound ih (Nat.le_trans hblank.1 (Nat.le_of_lt hd0.start_lt_stop)) hd0 hg0 (hlev0 ▸ hm4) hm1 hdep0 htakes h hn
    exact ⟨t, { hr with blanks := hstart ▸ hblank }, hlev, hhalt⟩

end sound

theorem expression_sound_all {p : Nat} (hp : p ≤ src.size) : ExprSound src D p := by
  induction hs : src.size - p using Nat.strongRecOn generalizing p with
  | ind s ih =>
  exact expression_sound (fun p' hlt hle => ih (src.size - p') (by omega) hle rfl) hp

end Grammar

end LiveArith.Syntax
