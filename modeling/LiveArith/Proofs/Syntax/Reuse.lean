import LiveArith.Proofs.Syntax.Language

/-!
Reparsing with a reuse index. An index is faithful to a text when every node in it is keyed by its
own start and is the tree of an operand that the text derives (`Good`).
-/

set_option autoImplicit false

namespace LiveArith.Syntax

open LiveArith.Syntax.Parser LiveArith.Syntax.Grammar

instance : LawfulBEq Kind where
  eq_of_beq {a b} h := by
    revert h
    cases a <;> cases b <;> decide
  rfl {a} := by cases a <;> decide

namespace Node

def detach (n : Node) : Node := ⟨{ n.head with field := .none }, n.children⟩

variable (n c : Node) (f : Field)

@[simp] theorem detach_start : n.detach.start = n.start := rfl
@[simp] theorem detach_stop : n.detach.stop = n.stop := rfl
@[simp] theorem detach_kind : n.detach.kind = n.kind := rfl
@[simp] theorem detach_nest : n.detach.nest = n.nest := rfl
@[simp] theorem detach_digest : n.detach.digest = n.digest := rfl
@[simp] theorem detach_children : n.detach.children = n.children := rfl
@[simp] theorem detach_detach : n.detach.detach = n.detach := rfl
@[simp] theorem push_detach : n.push f c.detach = n.push f c := rfl
@[simp] theorem push_field : (n.push f c).field = n.field := rfl
@[simp] theorem leaf_field (k : Kind) (a b : Int) : (leaf k a b).field = .none := rfl

theorem detach_of_field {n : Node} (h : n.field = .none) : n.detach = n := by
  obtain ⟨hd, cs⟩ := n
  simp only [detach, Node.field] at h ⊢
  rw [← h]

@[simp] theorem detach_absent (k : Kind) (s : UInt8) (a : Int) :
    (absent k s a).detach = absent k s a := rfl

end Node

namespace Parser

theorem binaryNode_detach (l : Node) (c : UInt8) (q : Nat) (r : Node) :
    binaryNode l.detach c q r.detach = binaryNode l c q r := rfl

theorem parenNode_detach (q : Nat) (inner close : Node) :
    parenNode q inner.detach close = parenNode q inner close := rfl

section congr

variable {I J : Input} (h : I.src = J.src)
include h

theorem peek_congr (p : Nat) : peek I p = peek J p := by
  simp only [peek, h]

theorem skipBlank_congr (p : Nat) : skipBlank I p = skipBlank J p := by
  by_cases hp : p ≤ I.src.size
  · obtain ⟨hrun, hb⟩ := run_skipBlank I hp
    rw [h] at hrun
    exact (skipBlank_of_run J hrun (by rw [← h]; exact hb)).symm
  · rw [skipBlank_eq I, skipBlank_eq J, if_neg (by omega), if_neg (by rw [← h]; omega)]

theorem digitsEnd_congr (p : Nat) : digitsEnd I p = digitsEnd J p := by
  by_cases hp : p ≤ I.src.size
  · obtain ⟨hrun, hb⟩ := run_digitsEnd I hp
    rw [h] at hrun
    exact (digitsEnd_of_run J hrun (by rw [← h]; exact hb)).symm
  · rw [digitsEnd_eq I, digitsEnd_eq J, if_neg (by omega), if_neg (by rw [← h]; omega)]

theorem scanNumber_congr (p : Nat) : scanNumber I p = scanNumber J p := by
  simp only [scanNumber_eq, digitsEnd_congr h, peek_congr h, h]

theorem wrap_congr (c : Node) : wrap I c = wrap J c := by
  rw [wrap_ofText, h, ← wrap_ofText]

theorem errorToEnd_congr (p : Nat) : errorToEnd I p = errorToEnd J p := by
  have trim : ∀ e fuel, errorToEnd.trim I p e fuel = errorToEnd.trim J p e fuel := by
    intro e fuel
    induction fuel generalizing e with
    | zero => rfl
    | succ fuel ih => simp only [errorToEnd.trim, peek_congr h, ih]
  simp only [errorToEnd, trim, h]

end congr

section fits

variable {I : Input} {q d : Nat} {n c : Node} {rest : List Node}

theorem fits_span (h : fits I q d n = true) : n.start = q ∧ n.stop ≤ I.src.size := by
  unfold fits at h
  simp only [Bool.and_eq_true, beq_iff_eq, decide_eq_true_eq] at h
  exact h.1

theorem fits_literal (h : fits I q d n = true) (hc : n.children = c :: rest)
    (hk : c.kind = .number ∨ c.kind = .float) : scanNumber I q = (c.kind, n.stop.toNat) := by
  unfold fits at h
  rw [hc] at h
  generalize hsc : scanNumber I q = s at h
  obtain ⟨k, e⟩ := s
  rcases hk with hk | hk <;>
  · simp only [hk, Bool.and_eq_true, beq_iff_eq, decide_eq_true_eq] at h
    obtain ⟨-, ⟨rfl, he⟩, -⟩ := h
    rw [hk]
    congr
    omega

theorem fits_paren (h : fits I q d n = true) (hc : n.children = c :: rest)
    (hk : c.kind = .parenthesized) : (n.nest : Int) ≤ I.maxDepth - d := by
  unfold fits at h
  rw [hc] at h
  simp only [hk, Bool.and_eq_true, decide_eq_true_eq] at h
  exact h.2.1.1.1

end fits

end Parser

namespace Grammar

variable {u : ByteArray}

@[simp] theorem Term.node_detach (t : Term) : (t.node u).detach = t.node u := by
  apply Node.detach_of_field
  cases t <;> simp [Term.node, wrap]

def Good (u : ByteArray) (n : Node) : Prop :=
  ∃ t : Term, t.level = 4 ∧ Derives u t ∧ Grouped t ∧ n.detach = t.node u

def Faithful (u : ByteArray) (R : Node.ReuseIndex) : Prop :=
  ∀ k n, R.get? k = some n → n.start = k ∧ Good u n

theorem faithful_empty : Faithful u {} := by
  intro k n h
  simp at h

theorem level_eq_four {t : Term} (h : t.level = 4) :
    (∃ f i j, t = .lit f i j) ∨ ∃ i inner c, t = .paren i inner c := by
  cases t with
  | lit f i j => exact .inl ⟨f, i, j, rfl⟩
  | paren i inner c => exact .inr ⟨i, inner, c, rfl⟩
  | binary l op q r =>
    have := power_le_three op
    simp only [Term.level] at h
    omega

theorem fresh_of_fits {I : Input} {n : Node} {q d k p : Nat} (hpq : p ≤ q) (hg : Good I.src n)
    (hfit : fits I q d n = true) :
    (fresh (.ofText I.src I.maxDepth) q d k hpq).result = (some n.detach, n.stop.toNat) := by
  obtain ⟨t, hl, hd, hgr, hn⟩ := hg
  obtain ⟨hstart, -⟩ := fits_span hfit
  have hstart' : n.start = t.start := by rw [← Node.detach_start, hn, Term.node_start]
  have hstop' : n.stop = t.stop := by rw [← Node.detach_stop, hn, Term.node_stop]
  have hq : t.start = q := by omega
  rcases level_eq_four hl with ⟨f, i, j, rfl⟩ | ⟨i, inner, c, rfl⟩
  · -- a literal: the scanner, rerun at its start, ends where it ends
    simp only [Term.start] at hq
    subst hq
    cases hd with
    | lit hlit =>
    obtain ⟨c0, hc0, hk0⟩ : ∃ c0, n.children = [c0] ∧ c0.kind = literalKind f :=
      ⟨_, by rw [← Node.detach_children, hn]; simp [Term.node, wrap]; rfl, rfl⟩
    have hscan := fits_literal hfit hc0 (by rw [hk0]; cases f <;> simp [literalKind])
    rw [hstop', hk0] at hscan
    have hscan' : scanNumber (.ofText I.src I.maxDepth) i = (literalKind f, j) := by
      rw [scanNumber_congr (I := .ofText I.src I.maxDepth) (J := I) rfl, hscan]
      rfl
    rw [fresh_literal (.ofText I.src I.maxDepth) hpq hlit.lead.ne_paren hlit.lead hscan' hlit.lt, hn, hstop']
    rfl
  · -- a parenthesized operand, nested within what the depth limit leaves
    simp only [Term.start] at hq
    subst hq
    obtain ⟨c0, hc0, hk0⟩ : ∃ c0, n.children = [c0] ∧ c0.kind = .parenthesized :=
      ⟨_, by rw [← Node.detach_children, hn]; simp [Term.node, wrap]; rfl, rfl⟩
    have hnest := fits_paren hfit hc0 hk0
    rw [← Node.detach_nest, hn, Term.node_nest] at hnest
    simp only [Term.depth] at hnest
    cases hd with
    | paren h40 _ hdi _ _ =>
    rw [fresh_paren (.ofText I.src I.maxDepth) hpq h40 (lt_size_of_byteAt h40 (by decide)),
      parenthesized_complete (.paren h40 ‹_› hdi ‹_› ‹_›) hgr (by omega), hn, hstop']
    rfl

theorem Good.span {n : Node} (hg : Good u n) : n.start < n.stop ∧ n.stop ≤ u.size := by
  obtain ⟨t, -, hd, -, hn⟩ := hg
  have hstart : n.start = t.start := by rw [← Node.detach_start, hn, Term.node_start]
  have hstop : n.stop = t.stop := by rw [← Node.detach_stop, hn, Term.node_stop]
  have := hd.start_lt_stop
  have := hd.stop_le_size
  omega

theorem Faithful.lt_stop {R : Node.ReuseIndex} (hR : Faithful u R) {k : Int} {n : Node}
    (hn : R.get? k = some n) : k < n.stop := by
  obtain ⟨hk, hg⟩ := hR _ _ hn
  have := hg.span.1
  omega

end Grammar

namespace Parser

def Parsed.view {p : Nat} (x : Parsed p) : Option Node × Nat := (x.node.map Node.detach, x.pos)

theorem Parsed.view_eq {p : Nat} (x : Parsed p) :
    x.view = (x.result.1.map Node.detach, x.result.2) := rfl

section advance

variable (I : Input) {d r : Nat}

theorem scanNumber_past {i : Nat} (h : I.src.size ≤ i) : scanNumber I i = (.number, i) := by
  have hsign : signEnd I.src i = i := by
    unfold signEnd
    rw [if_neg fun h45 => absurd (lt_size_of_byteAt h45 (by decide)) (by omega)]
  have hdig : digitsEnd I i = i := by rw [digitsEnd_eq, if_neg (by omega)]
  rw [scanNumber_eq, hsign, hdig, if_neg (by simp; omega), if_neg (by omega)]

theorem parenthesized_advance {q : Nat} (hq : q < I.src.size) :
    q < (parenthesized I q d r).pos := by
  by_cases hdeep : I.maxDepth ≤ d
  · have h := congrArg Prod.snd (parenthesized_deep I (q := q) (r := r) hdeep)
    simp only [Parsed.result] at h
    omega
  have hd := Nat.lt_of_not_le hdeep
  have h1 := le_skipBlank I (q + 1)
  by_cases hempty : peek I (skipBlank I (q + 1)) = 41 ∧ skipBlank I (q + 1) < I.src.size
  · have h := congrArg Prod.snd (parenthesized_empty I (r := r) hd hq hempty.1 hempty.2)
    simp only [Parsed.result] at h
    omega
  · have h := congrArg Prod.snd (parenthesized_inner I (r := r) hd hq hempty)
    have h2 := (expression I 1 (skipBlank I (q + 1)) (d + 1) r).le
    have h3 := le_skipBlank I (expression I 1 (skipBlank I (q + 1)) (d + 1) r).pos
    dsimp only at h
    split at h <;> simp only [Parsed.result] at h <;> omega

theorem fresh_advance {q p : Nat} (hpq : p ≤ q) {n : Node}
    (h : (fresh I q d r hpq).node = some n) : q < I.src.size ∧ q < (fresh I q d r hpq).pos := by
  rcases fresh_cases I hpq (d := d) (r := r) with ⟨hres, -, hlt⟩ | ⟨k, e, hres, hs, he⟩ | hres
  · have hpos := congrArg Prod.snd hres
    simp only [Parsed.result] at hpos
    exact ⟨hlt, hpos ▸ parenthesized_advance I hlt⟩
  · have hpos := congrArg Prod.snd hres
    simp only [Parsed.result] at hpos
    refine ⟨Nat.lt_of_not_le fun hle => ?_, hpos ▸ he⟩
    rw [scanNumber_past I hle, Prod.mk.injEq] at hs
    omega
  · have hnode := congrArg Prod.fst hres
    simp only [Parsed.result] at hnode
    rw [h] at hnode
    cases hnode

theorem operand_cases {p : Nat} :
    (operand I p d r).result = (fresh I (skipBlank I p) d r (le_skipBlank I p)).result ∨
      ∃ n, I.reuse.get? (skipBlank I p : Int) = some n ∧ fits I (skipBlank I p) d n = true ∧
        (operand I p d r).result = (some n, max (skipBlank I p) n.stop.toNat) := by
  cases hg : I.reuse.get? (skipBlank I p : Int) with
  | none => exact .inl (operand_fresh I hg)
  | some n =>
    cases hf : fits I (skipBlank I p) d n with
    | false => exact .inl (operand_misfit I hg hf)
    | true => exact .inr ⟨n, rfl, hf, operand_reuse I hg hf⟩

theorem operand_advance {p : Nat} (hw : ∀ n, I.reuse.get? (skipBlank I p : Int) = some n →
      fits I (skipBlank I p) d n = true → (skipBlank I p : Int) < n.stop) {n : Node}
    (h : (operand I p d r).node = some n) :
    skipBlank I p < I.src.size ∧ p < (operand I p d r).pos := by
  have hpq := le_skipBlank I p
  rcases operand_cases I (p := p) (d := d) (r := r) with hres | ⟨n', hn', hf, hres⟩
  · have hnode := congrArg Prod.fst hres
    have hpos := congrArg Prod.snd hres
    simp only [Parsed.result] at hnode hpos
    rw [hnode] at h
    have := fresh_advance I _ h
    omega
  · -- a node taken over ends past the cursor and inside the text
    have hpos := congrArg Prod.snd hres
    simp only [Parsed.result] at hpos
    have := fits_span hf
    have := hw n' hn' hf
    omega

end advance

section congr

variable {I J : Input} (h : I.src = J.src)
include h

theorem fresh_congr {q q' p₁ p₂ d k k' : Nat} (h1 : p₁ ≤ q) (h2 : p₂ ≤ q') (hq : q = q')
    (hp : peek I q = 40 → q < I.src.size →
      (parenthesized I q d k).view = (parenthesized J q d k').view) :
    (fresh I q d k h1).view = (fresh J q' d k' h2).view := by
  subst hq
  by_cases hc : peek I q = 40 ∧ q < I.src.size
  · rw [Parsed.view_eq, Parsed.view_eq, fresh_paren I h1 hc.1 hc.2,
      fresh_paren J h2 (by rw [← peek_congr h]; exact hc.1) (by rw [← h]; exact hc.2)]
    exact hp hc.1 hc.2
  · -- with the texts equal, both reads take the same branch
    have hc' : (peek I q == 40 && decide (q < I.src.size)) = false := by simpa using hc
    simp only [Parsed.view, fresh, ← peek_congr h, ← scanNumber_congr h, ← wrap_congr h, ← h, hc',
      Bool.false_eq_true, if_false]
    by_cases hl : (isDigit (peek I q) || peek I q == 46 || peek I q == 45) = true
    · by_cases he : (scanNumber I q).2 ≤ q
      · simp only [hl, he, if_true, dif_pos]
      · simp only [hl, he, if_true, dif_neg, not_false_eq_true]
    · simp only [hl, Bool.false_eq_true, if_false]

end congr

def Agree (I : Input) (p : Nat) : Prop :=
  (∀ m d k k', (expression I m p d k).view =
    (expression (.ofText I.src I.maxDepth) m p d k').view) ∧
  ∀ m L L' d k k', L.detach = L'.detach →
    (climb I m L p d k).view = (climb (.ofText I.src I.maxDepth) m L' p d k').view

section agree

variable {I : Input} {p : Nat} (ih : ∀ p', p < p' → p < I.src.size → Agree I p')
include ih

theorem paren_agree {q d k k' : Nat} (hpq : p ≤ q) :
    (parenthesized I q d k).view = (parenthesized (.ofText I.src I.maxDepth) q d k').view := by
  have hs : I.src = (Input.ofText I.src I.maxDepth).src := rfl
  have hd : (Input.ofText I.src I.maxDepth).maxDepth = I.maxDepth := rfl
  rw [Parsed.view_eq, Parsed.view_eq]
  by_cases hdeep : I.maxDepth ≤ d
  · rw [parenthesized_deep I hdeep, parenthesized_deep (.ofText I.src I.maxDepth) (hd ▸ hdeep), errorToEnd_congr hs]
    rfl
  by_cases hend : I.src.size ≤ q
  · rw [parenthesized_end I (by omega) (by omega), parenthesized_end (.ofText I.src I.maxDepth) (by simp only [ofText_src]; omega) (by omega)]
  have hq := Nat.lt_of_not_le hend
  have hlt := Nat.lt_of_not_le hdeep
  by_cases hempty : peek I (skipBlank I (q + 1)) = 41 ∧ skipBlank I (q + 1) < I.src.size
  · rw [parenthesized_empty I hlt hq hempty.1 hempty.2,
      parenthesized_empty (.ofText I.src I.maxDepth) hlt hq (by rw [← skipBlank_congr hs, ← peek_congr hs]; exact hempty.1)
        (by rw [← skipBlank_congr hs]; exact hempty.2), ← skipBlank_congr hs]
  · rw [parenthesized_inner I hlt hq hempty,
      parenthesized_inner (.ofText I.src I.maxDepth) hlt hq (by rwa [← skipBlank_congr hs, ← peek_congr hs])]
    rw [← skipBlank_congr hs (q + 1)]
    simp only [← skipBlank_congr hs, ← peek_congr hs, ← wrap_congr hs, ofText_src]
    -- the inner expressions agree by induction
    have h1 := le_skipBlank I (q + 1)
    have hv := (ih (skipBlank I (q + 1)) (by omega) (by omega)).1 1 (d + 1) k k'
    generalize expression I 1 (skipBlank I (q + 1)) (d + 1) k = x at hv ⊢
    generalize expression (.ofText I.src I.maxDepth) 1 (skipBlank I (q + 1)) (d + 1) k' = y at hv ⊢
    obtain ⟨nx, pos, _, _⟩ := x
    obtain ⟨ny, pos', _, _⟩ := y
    simp only [Parsed.view, Prod.mk.injEq] at hv
    obtain ⟨hn, rfl⟩ := hv
    rcases nx with _ | a <;> rcases ny with _ | b <;>
      simp only [Option.map_none, Option.map_some, reduceCtorEq, Option.some.injEq] at hn
    · rfl
    · have hab : ∀ c, parenNode q a c = parenNode q b c := fun c => by
        rw [← parenNode_detach, hn, parenNode_detach]
      have hst : a.stop = b.stop := by rw [← Node.detach_stop, hn, Node.detach_stop]
      simp only [Option.getD_some, hab, hst]

theorem climb_agree {m d k k' : Nat} {L L' : Node} (hL : L.detach = L'.detach) :
    (climb I m L p d k).view = (climb (.ofText I.src I.maxDepth) m L' p d k').view := by
  have hs : I.src = (Input.ofText I.src I.maxDepth).src := rfl
  obtain ⟨q, hq⟩ : ∃ q, skipBlank I p = q := ⟨_, rfl⟩
  obtain ⟨c, hc⟩ : ∃ c, peek I q = c := ⟨_, rfl⟩
  have hqJ : skipBlank (.ofText I.src I.maxDepth) p = q := (skipBlank_congr hs p).symm.trans hq
  have hcJ : peek (.ofText I.src I.maxDepth) q = c := (peek_congr hs q).symm.trans hc
  rw [Parsed.view_eq, Parsed.view_eq]
  by_cases hgo : 0 < power c ∧ m ≤ power c ∧ q < I.src.size
  · obtain ⟨hpow, hm, hqs⟩ := hgo
    have hpq : p ≤ q := hq ▸ le_skipBlank I p
    have h1 := le_skipBlank I (q + 1)
    rw [climb_step I hq hc hpow hm hqs, climb_step (.ofText I.src I.maxDepth) hqJ hcJ hpow hm hqs]
    rw [← skipBlank_congr hs (q + 1)]
    simp only [← wrap_congr hs]
    -- the right operands agree by induction
    have hv := (ih (skipBlank I (q + 1)) (by omega) (by omega)).1 (rightBound c) d k k'
    generalize expression I (rightBound c) (skipBlank I (q + 1)) d k = x at hv ⊢
    generalize expression (.ofText I.src I.maxDepth) (rightBound c) _ d k' = y at hv ⊢
    obtain ⟨nx, pos, kx, hx⟩ := x
    obtain ⟨ny, pos', ky, _⟩ := y
    simp only [Parsed.view, Prod.mk.injEq] at hv
    obtain ⟨hn, rfl⟩ := hv
    have hbin : ∀ a b, a.detach = b.detach → binaryNode L c q a = binaryNode L' c q b :=
      fun a b hab => by rw [← binaryNode_detach, hL, hab, binaryNode_detach]
    rcases nx with _ | a <;> rcases ny with _ | b <;>
      simp only [Option.map_none, Option.map_some, reduceCtorEq, Option.some.injEq] at hn
    · dsimp only
      rw [hbin _ _ rfl]
    · dsimp only
      rw [hbin a b hn]
      exact (ih pos (by omega) (by omega)).2 m _ _ d kx ky rfl
  · rw [climb_stop I hq hc (by omega), climb_stop (.ofText I.src I.maxDepth) hqJ hcJ (by simp only [ofText_src]; omega)]
    simp only [Option.map_some, hL]

theorem operand_agree (hR : Faithful I.src I.reuse) {d k k' : Nat} :
    (operand I p d k).view = (operand (.ofText I.src I.maxDepth) p d k').view := by
  have hs : I.src = (Input.ofText I.src I.maxDepth).src := rfl
  have hpq := le_skipBlank I p
  rw [Parsed.view_eq, Parsed.view_eq, operand_fresh (.ofText I.src I.maxDepth) (ofText_get? _)]
  rcases operand_cases I (p := p) (d := d) (r := k) with hres | ⟨n, hget, hf, hres⟩
  · rw [hres]
    exact fresh_congr hs _ _ (skipBlank_congr hs p) fun _ _ => paren_agree ih hpq
  · -- a node the index offers is the node a fresh read builds
    obtain ⟨-, hgood⟩ := hR _ _ hget
    have hlt := hR.lt_stop hget
    rw [hres, show max (skipBlank I p) n.stop.toNat = n.stop.toNat by omega]
    rw [skipBlank_congr hs] at hf
    rw [fresh_of_fits (le_skipBlank _ p) hgood hf]
    simp

theorem expression_agree (hR : Faithful I.src I.reuse) {m d k k' : Nat} :
    (expression I m p d k).view = (expression (.ofText I.src I.maxDepth) m p d k').view := by
  have hv : (operand I p d k).view = (operand (.ofText I.src I.maxDepth) p d k').view :=
    operand_agree ih hR
  simp only [Parsed.view, Prod.mk.injEq] at hv
  obtain ⟨hn, hpos⟩ := hv
  rcases hx : (operand I p d k).node with _ | a <;>
    rcases hy : (operand (.ofText I.src I.maxDepth) p d k').node with _ | b <;>
    rw [hx, hy] at hn <;>
    simp only [Option.map_none, Option.map_some, reduceCtorEq, Option.some.injEq] at hn
  · rw [Parsed.view_eq, Parsed.view_eq, expression_none I hx, expression_none (.ofText I.src I.maxDepth) hy, hpos]
  · obtain ⟨hq, hadv⟩ := operand_advance I (fun _ hn _ => hR.lt_stop hn) hx
    have := le_skipBlank I p
    rw [Parsed.view_eq, Parsed.view_eq, expression_some I hx, expression_some (.ofText I.src I.maxDepth) hy, ← hpos]
    exact (ih _ hadv (by omega)).2 m a b d _ _ hn

end agree

theorem agree_all {I : Input} (hR : Faithful I.src I.reuse) (p : Nat) : Agree I p := by
  induction hs : I.src.size - p using Nat.strongRecOn generalizing p with
  | ind s ih =>
  have ih' : ∀ p', p < p' → p < I.src.size → Agree I p' :=
    fun p' hlt hsize => ih (I.src.size - p') (by omega) p' rfl
  exact ⟨fun m d k k' => expression_agree ih' hR, fun m L L' d k k' hL => climb_agree ih' hL⟩

theorem source_agree {I : Input} (hR : Faithful I.src I.reuse) :
    (source I).root = (source (.ofText I.src I.maxDepth)).root := by
  have hs : I.src = (Input.ofText I.src I.maxDepth).src := rfl
  have hv := (agree_all hR (skipBlank I 0)).1 1 0 0 0
  rw [source, source]
  dsimp only
  by_cases hend : I.src.size ≤ skipBlank I 0
  · rw [if_pos hend, if_pos (show (Input.ofText I.src I.maxDepth).src.size ≤
      skipBlank (.ofText I.src I.maxDepth) 0 by rw [← skipBlank_congr hs 0]; exact hend)]
    rfl
  · rw [if_neg hend, if_neg (show ¬(Input.ofText I.src I.maxDepth).src.size ≤
      skipBlank (.ofText I.src I.maxDepth) 0 by rw [← skipBlank_congr hs 0]; exact hend),
      ← skipBlank_congr hs 0]
    dsimp only
    generalize expression I 1 (skipBlank I 0) 0 0 = x at hv ⊢
    generalize expression (.ofText I.src I.maxDepth) 1 (skipBlank I 0) 0 0 = y at hv ⊢
    obtain ⟨nx, pos, _, _⟩ := x
    obtain ⟨ny, pos', _, _⟩ := y
    simp only [Parsed.view, Prod.mk.injEq] at hv
    obtain ⟨hn, rfl⟩ := hv
    rw [← skipBlank_congr hs pos, ← errorToEnd_congr hs]
    rcases nx with _ | a <;> rcases ny with _ | b <;>
      simp only [Option.map_none, Option.map_some, reduceCtorEq, Option.some.injEq] at hn
    · rfl
    · -- the expression hangs under the source node, which sets its field
      have hpush : ∀ r : Node, r.push .none a = r.push .none b := fun r => by
        rw [← Node.push_detach, hn, Node.push_detach]
      simp only [hpush]
      rfl

end Parser

theorem parse_reuse {limits : Limits} {src : ByteArray} {old : Tree}
    (h : old.length = src.size → Grammar.Faithful src old.reusable) :
    (parse limits src (some old)).map Tree.root = (parse limits src none).map Tree.root := by
  rw [parse, parse]
  split
  · rfl
  · have hR : Grammar.Faithful src (if old.length == src.size then old.reusable else {}) := by
      split
      · next heq => exact h (beq_iff_eq.1 heq)
      · exact Grammar.faithful_empty
    exact congrArg Except.ok (Parser.source_agree hR)

end LiveArith.Syntax
