import LiveArith.Proofs.Syntax.Reuse

/-!
The shape of a fresh tree.
-/

set_option autoImplicit false

namespace LiveArith.Syntax

open LiveArith.Syntax.Parser LiveArith.Syntax.Grammar

namespace Node

/-- Every node of the tree satisfies `P`. -/
inductive All (P : Node → Prop) : Node → Prop
  | intro {n : Node} : P n → (∀ c ∈ n.children, All P c) → All P n

variable {P : Node → Prop} {n : Node}

theorem All.self (h : All P n) : P n := by
  cases h with
  | intro hp _ => exact hp

theorem All.child (h : All P n) {c : Node} (hc : c ∈ n.children) : All P c := by
  cases h with
  | intro _ hcs => exact hcs c hc

theorem All.imp {Q : Node → Prop} (h : All P n) (hpq : ∀ m, P m → Q m) : All Q n := by
  induction h with
  | intro hp _ ih => exact .intro (hpq _ hp) ih

theorem all_leaf {k : Kind} {a b : Int} (h : P (leaf k a b)) : All P (leaf k a b) :=
  .intro h (by simp)

variable (c : Node) (f : Field) (k : Kind) (a b : Int)

@[simp] theorem leaf_changed : (leaf k a b).changed = false := rfl
@[simp] theorem absent_start (s : UInt8) : (absent k s a).start = a := rfl
@[simp] theorem absent_stop (s : UInt8) : (absent k s a).stop = a := rfl
@[simp] theorem push_changed : (n.push f c).changed = n.changed := rfl
@[simp] theorem mk_start (h : Head) (cs : List Node) : (⟨h, cs⟩ : Node).start = h.start := rfl
@[simp] theorem mk_stop (h : Head) (cs : List Node) : (⟨h, cs⟩ : Node).stop = h.stop := rfl
@[simp] theorem mk_changed (h : Head) (cs : List Node) : (⟨h, cs⟩ : Node).changed = h.changed := rfl

@[simp] theorem field_start : (⟨{ c.head with field := f }, c.children⟩ : Node).start = c.start := rfl
@[simp] theorem field_stop : (⟨{ c.head with field := f }, c.children⟩ : Node).stop = c.stop := rfl
@[simp] theorem field_kind : (⟨{ c.head with field := f }, c.children⟩ : Node).kind = c.kind := rfl
@[simp] theorem field_changed :
    (⟨{ c.head with field := f }, c.children⟩ : Node).changed = c.changed := rfl
@[simp] theorem field_hasError :
    (⟨{ c.head with field := f }, c.children⟩ : Node).hasError = c.hasError := rfl
@[simp] theorem field_clean : (⟨{ c.head with field := f }, c.children⟩ : Node).clean = c.clean := by
  obtain ⟨h, cs⟩ := c
  simp [clean, every, Head.sound]

end Node

namespace Grammar

/-- What holds at each node of a fresh tree of the text `u`. -/
structure Fine (u : ByteArray) (n : Node) : Prop where
  unchanged : n.changed = false
  ordered : n.start ≤ n.stop
  nested : ∀ c ∈ n.children, n.start ≤ c.start ∧ c.stop ≤ n.stop
  sorted : n.children.Pairwise fun a b => a.stop ≤ b.start
  narrow : n.missing = true → n.start = n.stop
  honest : n.hasError = !n.clean
  good : Node.operand n = true → Good u n

variable {u : ByteArray}

theorem Fine.withField {c : Node} (f : Field) (h : Fine u c) :
    Fine u ⟨{ c.head with field := f }, c.children⟩ :=
  ⟨h.unchanged, h.ordered, h.nested, h.sorted, h.narrow, by simpa using h.honest, h.good⟩

theorem all_withField {c : Node} (f : Field) (h : Node.All (Fine u) c) :
    Node.All (Fine u) ⟨{ c.head with field := f }, c.children⟩ := by
  cases h with
  | intro hc hcs => exact .intro (hc.withField f) hcs

theorem operand_of_kind {n : Node} (h : n.kind ≠ .expression) : Node.operand n = false := by
  unfold Node.operand
  simp [h]

theorem fine_leaf {k : Kind} {a b : Int} (h : a ≤ b) : Node.All (Fine u) (Node.leaf k a b) :=
  Node.all_leaf ⟨rfl, h, by simp, by simp, by simp, by cases k <;> rfl,
    by simp [Node.operand, Node.leaf]⟩

theorem fine_token (s : UInt8) (a : Int) : Node.All (Fine u) (Node.token s a) :=
  .intro ⟨rfl, by simp only [Node.token_start, Node.token_stop]; omega, by simp, by simp, by simp,
    by simp, by simp [Node.operand, Node.token]⟩ (by simp)

theorem fine_absent (k : Kind) (s : UInt8) (a : Int) : Node.All (Fine u) (Node.absent k s a) :=
  .intro ⟨rfl, Int.le_refl a, by simp [Node.absent], by simp [Node.absent], fun _ => rfl,
    by simp [Node.absent, Node.hasError, Node.clean, Node.every, Node.everyOf, Head.sound],
    by simp [Node.operand, Node.absent]⟩ (by simp [Node.absent])

theorem fine_push {n c : Node} {f : Field} (hn : Node.All (Fine u) n) (hc : Node.All (Fine u) c)
    (hstart : n.start ≤ c.start) (hstop : c.stop ≤ n.stop) (hk : n.kind ≠ .expression)
    (hafter : ∀ c' ∈ n.children, c'.stop ≤ c.start) :
    Node.All (Fine u) (n.push f c) := by
  have hf := hn.self
  refine .intro ⟨hf.unchanged, hf.ordered, ?_, ?_, hf.narrow, ?_, ?_⟩ ?_
  · intro c' hc'
    simp only [Node.push_children, List.mem_append, List.mem_singleton] at hc'
    rcases hc' with hc' | rfl
    · exact hf.nested c' hc'
    · exact ⟨hstart, hstop⟩
  · simp only [Node.push_children]
    exact List.pairwise_append.2 ⟨hf.sorted, List.pairwise_singleton _ _,
      fun a ha b hb => by rw [List.mem_singleton] at hb; subst hb; exact hafter a ha⟩
  · simp [hf.honest, hc.self.honest]
  · simp [operand_of_kind (n := n.push f c) hk]
  · intro c' hc'
    simp only [Node.push_children, List.mem_append, List.mem_singleton] at hc'
    rcases hc' with hc' | rfl
    · exact hn.child hc'
    · exact all_withField f hc

theorem fine_wrap (I : Input) {c : Node} (hc : Node.All (Fine u) c)
    (hgood : Node.operand (wrap I c) = true → Good u (wrap I c)) :
    Node.All (Fine u) (wrap I c) := by
  have hf := hc.self
  have hkids : (wrap I c).children = [⟨{ c.head with field := .none }, c.children⟩] := by
    simp [wrap]
  refine .intro ⟨?_, ?_, ?_, ?_, ?_, ?_, hgood⟩ ?_
  · simp [wrap]
  · simpa [wrap] using hf.ordered
  · intro c' hc'
    rw [hkids, List.mem_singleton] at hc'
    subst hc'
    exact ⟨Int.le_of_eq (by simp [wrap]; rfl), Int.le_of_eq (by simp [wrap]; rfl)⟩
  · rw [hkids]
    exact List.pairwise_singleton _ _
  · simp [wrap]
  · simp [wrap, hf.honest]
  · intro c' hc'
    rw [hkids, List.mem_singleton] at hc'
    subst hc'
    exact all_withField .none hc

theorem operand_wrap_binary (I : Input) {c : Node} (h : c.kind = .binary) :
    Node.operand (wrap I c) = false := by
  simp [Node.operand, wrap, h]

theorem fine_parenNode {q : Nat} {inner close : Node} (hi : Node.All (Fine u) inner)
    (hc : Node.All (Fine u) close) (h1 : (q : Int) + 1 ≤ inner.start) (h2 : (q : Int) ≤ close.start)
    (h3 : (q : Int) + 1 ≤ close.stop) (h4 : inner.stop ≤ close.start) :
    Node.All (Fine u) (parenNode q inner close) := by
  have hio := hi.self.ordered
  have hs : inner.head.stop = inner.stop := rfl
  unfold parenNode
  refine fine_push (fine_push (fine_push (fine_leaf (by omega)) (fine_token 40 q) ?_ ?_ ?_ ?_)
    hi ?_ ?_ ?_ ?_) hc ?_ ?_ ?_ ?_ <;> simp [Node.token] <;> omega

theorem fine_binaryNode {L R : Node} {c : UInt8} {q : Nat} (hl : Node.All (Fine u) L)
    (hr : Node.All (Fine u) R) (h1 : L.stop ≤ q) (h2 : (q : Int) + 1 ≤ R.start) :
    Node.All (Fine u) (binaryNode L c q R) := by
  have hlo := hl.self.ordered
  have hro := hr.self.ordered
  have hls : L.head.stop = L.stop := rfl
  have hrs : R.head.start = R.start := rfl
  unfold binaryNode
  refine fine_push (fine_push (fine_push (fine_leaf (by simp; omega)) hl ?_ ?_ ?_ ?_)
    (fine_token c q) ?_ ?_ ?_ ?_) hr ?_ ?_ ?_ ?_ <;> simp [Node.token] <;> omega

theorem fine_node {t : Term} (hd : Derives u t) (hg : Grouped t) : Node.All (Fine u) (t.node u) := by
  induction hd with
  | @lit f i j hl =>
    exact fine_wrap _ (fine_leaf (by have := hl.lt; omega))
      fun _ => ⟨.lit f i j, rfl, .lit hl, trivial, Term.node_detach (.lit f i j)⟩
  | paren h40 hopen hd hclose h41 ih =>
    rename_i i c t
    have hit : i + 1 ≤ t.start := hopen.1
    have hic : i < c := by have := hd.start_lt_stop; have := hclose.1; omega
    have hpd : Derives u (.paren i t c) := .paren h40 hopen hd hclose h41
    rw [← wrap_parenNode (I := .ofText u 0) u rfl hclose.1]
    have hts : t.stop ≤ c := hclose.1
    exact fine_wrap _ (fine_parenNode (ih hg) (fine_token 41 c) (by simp; omega) (by simp; omega)
      (by simp; omega) (by simp; omega))
      fun _ => ⟨.paren i t c, rfl, hpd, hg, by rw [wrap_parenNode u rfl hclose.1, Term.node_detach]⟩
  | binary hl hrun hop hpow hrun2 hr ihl ihr =>
    rename_i l r op q
    have hrs := hr.start_lt_stop
    rw [← wrap_binaryNode (I := .ofText u 0) u rfl (by have := hrun2.1; omega)]
    exact fine_wrap _ (fine_binaryNode (ihl hg.1) (ihr hg.2.1) (by simp; exact hrun.1)
      (by simp; have := hrun2.1; omega)) fun hop' => by rw [operand_wrap_binary _ rfl] at hop'; cases hop'

end Grammar

theorem Parser.errorToEnd_span (I : Parser.Input) {q : Nat} (hq : q ≤ I.src.size) :
    ∃ j, q ≤ j ∧ j ≤ I.src.size ∧ Parser.errorToEnd I q = Node.leaf .error q j := by
  -- trimming blanks from the end never goes past the start
  have trim : ∀ fuel e, q ≤ e →
      q ≤ Parser.errorToEnd.trim I q e fuel ∧ Parser.errorToEnd.trim I q e fuel ≤ e := by
    intro fuel
    induction fuel with
    | zero => exact fun e he => ⟨he, Nat.le_refl e⟩
    | succ fuel ih =>
      intro e he
      rw [Parser.errorToEnd.trim]
      split
      · next h =>
        simp only [Bool.and_eq_true, decide_eq_true_eq] at h
        have := ih (e - 1) (by omega)
        omega
      · exact ⟨he, Nat.le_refl e⟩
  obtain ⟨h1, h2⟩ := trim I.src.size I.src.size hq
  exact ⟨_, h1, h2, rfl⟩

namespace Grammar

variable {u : ByteArray}

/-- A node built from the text between the cursors `p` and `pos`. -/
structure Built (u : ByteArray) (p pos : Nat) (n : Node) : Prop where
  start : (p : Int) ≤ n.start
  stop : n.stop ≤ pos
  fine : Node.All (Fine u) n

theorem Built.widen {p p' pos : Nat} {n : Node} (hp : p' ≤ p) (h : Built u p pos n) :
    Built u p' pos n :=
  { h with start := Int.le_trans (by omega) h.start }

theorem clean_of_operand (I : Input) {c : Node} (hc : Fine u c) (hop : Node.operand (wrap I c) = true) :
    (wrap I c).clean = true := by
  have herr : (wrap I c).hasError = false := by
    simp only [Node.operand, Bool.and_eq_true, Bool.not_eq_eq_eq_not, Bool.not_true] at hop
    exact hop.1.2
  simp only [wrap, stamp_hasError, Node.push_hasError, Node.leaf_hasError] at herr
  simp [wrap, hc.honest] at herr ⊢
  exact herr

theorem good_of_paren {D q d k pos : Nat} {n : Node} (hq : q < u.size) (h40 : Utf8.byteAt u q = 40)
    (h : (parenthesized (.ofText u D) q d k).result = (some n, pos)) (hc : n.clean = true) :
    Good u n := by
  obtain ⟨t, hr, hlev⟩ := paren_sound (fun _ _ hle => expression_sound_all hle) h40 hq h hc
  exact ⟨t, hlev, hr.derives, hr.grouped, by rw [hr.node, Term.node_detach]⟩

def Shaped (src : ByteArray) (D p : Nat) : Prop :=
  ∀ m d k node pos, (expression (.ofText src D) m p d k).result = (node, pos) →
    pos ≤ src.size ∧ ∀ n, node = some n → Built src p pos n

section shaped

variable {src : ByteArray} {D p : Nat} (ih : ∀ p', p < p' → p' ≤ src.size → Shaped src D p')
include ih

theorem paren_shaped {q d k pos : Nat} {node : Option Node} (hpq : p ≤ q) (hq : q < src.size)
    (h40 : Utf8.byteAt src q = 40)
    (h : (parenthesized (.ofText src D) q d k).result = (node, pos)) :
    pos ≤ src.size ∧ ∀ n, node = some n → Built src q pos n := by
  have h0 := h
  by_cases hdeep : D ≤ d
  · -- too deep: one ERROR node to the end
    rw [parenthesized_deep _ hdeep] at h
    simp only [Prod.mk.injEq] at h
    obtain ⟨rfl, rfl⟩ := h
    obtain ⟨j, hqj, hj, he⟩ := errorToEnd_span (.ofText src D) (q := q) (Nat.le_of_lt hq)
    refine ⟨by simp only [ofText_src]; omega, fun n hn => ?_⟩
    simp only [Option.some.injEq] at hn
    subst hn
    rw [he]
    exact ⟨by simp, by simp only [ofText_src] at hj ⊢; simp; omega, fine_leaf (by omega)⟩
  have hdD := Nat.lt_of_not_le hdeep
  obtain ⟨hrun1, _⟩ := run_skipBlank (.ofText src D) (p := q + 1) hq
  have hq1 := hrun1.1
  by_cases hempty : peek (.ofText src D) (skipBlank (.ofText src D) (q + 1)) = 41 ∧
      skipBlank (.ofText src D) (q + 1) < src.size
  · -- `()`: one ERROR node over both parentheses
    rw [parenthesized_empty _ hdD hq hempty.1 hempty.2] at h
    simp only [Prod.mk.injEq] at h
    obtain ⟨rfl, rfl⟩ := h
    refine ⟨hempty.2, fun n hn => ?_⟩
    simp only [Option.some.injEq] at hn
    subst hn
    exact ⟨by simp, by simp, fine_push (fine_push (fine_leaf (by omega)) (fine_token 40 q)
      (by simp) (by simp; omega) (by simp) (by simp)) (fine_token 41 _) (by simp; omega) (by simp)
      (by simp) (by simp [Node.token]; omega)⟩
  rw [parenthesized_inner _ hdD hq hempty] at h
  dsimp only at h
  have hE := ih _ (by omega) hrun1.le_size 1 (d + 1) k
  generalize expression (.ofText src D) 1 (skipBlank (.ofText src D) (q + 1)) (d + 1) k = E at h hE
  obtain ⟨enode, epos, k', hle⟩ := E
  obtain ⟨hepos, hbuilt⟩ := hE enode epos rfl
  dsimp only at h
  -- the inner node, or a missing number in its place
  have hinner : Built src (skipBlank (.ofText src D) (q + 1)) epos
      (enode.getD (Node.absent .number 0 epos)) := by
    cases enode with
    | none => exact ⟨by simpa using hle, by simp, fine_absent _ _ _⟩
    | some n => exact hbuilt n rfl
  have hin := hinner.start
  have hio := hinner.fine.self.ordered
  have hist := hinner.stop
  obtain ⟨hrun2, _⟩ := run_skipBlank (.ofText src D) (p := epos) hepos
  have hq2 := hrun2.1
  have hq2s := hrun2.le_size
  simp only [ofText_src] at hq2s
  split at h
  · next hclose =>
    simp only [Prod.mk.injEq] at h
    obtain ⟨rfl, rfl⟩ := h
    refine ⟨hclose.2, fun n hn => ?_⟩
    simp only [Option.some.injEq] at hn
    subst hn
    have hP := fine_parenNode (q := q) hinner.fine
      (fine_token 41 (skipBlank (.ofText src D) epos : Nat)) (by omega) (by simp; omega)
      (by simp; omega) (by simp; omega)
    exact ⟨by simp [wrap, parenNode], by simp [wrap, parenNode]; omega,
      fine_wrap _ hP fun hop => good_of_paren hq h40 h0 (clean_of_operand _ hP.self hop)⟩
  · simp only [Prod.mk.injEq] at h
    obtain ⟨rfl, rfl⟩ := h
    refine ⟨hq2s, fun n hn => ?_⟩
    simp only [Option.some.injEq] at hn
    subst hn
    have hP := fine_parenNode (q := q) hinner.fine
      (fine_absent .punctuation 41 (max (enode.getD (Node.absent .number 0 epos)).stop (q + 1)))
      (by omega) (by simp only [Node.absent_start]; omega) (by simp only [Node.absent_stop]; omega)
      (by simp only [Node.absent_start]; omega)
    exact ⟨by simp [wrap, parenNode], by simp [wrap, parenNode]; omega,
      fine_wrap _ hP fun hop => good_of_paren hq h40 h0 (clean_of_operand _ hP.self hop)⟩

theorem operand_shaped {d k pos : Nat} {node : Option Node} (hp : p ≤ src.size)
    (h : (operand (.ofText src D) p d k).result = (node, pos)) :
    pos ≤ src.size ∧ ∀ n, node = some n → Built src p pos n := by
  rw [operand_fresh _ (ofText_get? _)] at h
  obtain ⟨hrun, _⟩ := run_skipBlank (.ofText src D) hp
  rcases fresh_cases (.ofText src D) (le_skipBlank _ p) (d := d) (r := k) with
    ⟨hf, h40, hqs⟩ | ⟨kind, e, hf, hscan, hlt⟩ | hf
  · rw [hf] at h
    obtain ⟨hpos, hb⟩ := paren_shaped ih hrun.1 hqs h40 h
    exact ⟨hpos, fun n hn => (hb n hn).widen hrun.1⟩
  · -- a literal is the tree of a term on its own
    rw [hf] at h
    simp only [Prod.mk.injEq] at h
    obtain ⟨rfl, rfl⟩ := h
    obtain ⟨fl, rfl, hl⟩ := literal_of_scanNumber (.ofText src D) hrun.le_size hscan hlt
    refine ⟨hl.le_size, fun n hn => ?_⟩
    simp only [Option.some.injEq] at hn
    subst hn
    have hnode : wrap (.ofText src D) (Node.leaf (literalKind fl) (skipBlank (.ofText src D) p) e) =
        (Term.lit fl _ e).node src := rfl
    rw [hnode]
    exact ⟨by simp [Term.start]; exact hrun.1, by simp [Term.stop], fine_node (.lit hl) trivial⟩
  · rw [hf] at h
    simp only [Prod.mk.injEq] at h
    obtain ⟨rfl, rfl⟩ := h
    exact ⟨hrun.le_size, fun n hn => by cases hn⟩

theorem climb_shaped {m d k pos a p₀ : Nat} {L : Node} {node : Option Node} (hp : p ≤ p₀)
    (hs : p₀ ≤ src.size) (hL : Built src a p₀ L)
    (h : (climb (.ofText src D) m L p₀ d k).result = (node, pos)) :
    pos ≤ src.size ∧ ∀ n, node = some n → Built src a pos n := by
  induction hsz : src.size - p₀ using Nat.strongRecOn generalizing L p₀ k with
  | ind s ihc =>
  obtain ⟨q, hq⟩ : ∃ q, skipBlank (.ofText src D) p₀ = q := ⟨_, rfl⟩
  obtain ⟨c, hc⟩ : ∃ c, peek (.ofText src D) q = c := ⟨_, rfl⟩
  obtain ⟨hrun, _⟩ := run_skipBlank (.ofText src D) hs
  rw [hq] at hrun
  have hrq := hrun.1
  have hLo := hL.fine.self.ordered
  have hLs := hL.stop
  by_cases hgo : 0 < power c ∧ m ≤ power c ∧ q < src.size
  · obtain ⟨hpow, hmc, hqs⟩ := hgo
    rw [climb_step _ hq hc hpow hmc hqs] at h
    obtain ⟨hrun1, _⟩ := run_skipBlank (.ofText src D) (p := q + 1) hqs
    have hq1 := hrun1.1
    have hE := ih _ (by omega) hrun1.le_size (rightBound c) d k
    generalize expression (.ofText src D) (rightBound c) (skipBlank (.ofText src D) (q + 1)) d k = E
      at h hE
    obtain ⟨enode, epos, k', hle⟩ := E
    obtain ⟨hepos, hbuilt⟩ := hE enode epos rfl
    -- a binary node is never an operand to take over
    have hwrap : ∀ R, Node.All (Fine src) (binaryNode L c q R) →
        Node.All (Fine src) (wrap (.ofText src D) (binaryNode L c q R)) := fun R hB =>
      fine_wrap _ hB fun hop => by rw [operand_wrap_binary _ rfl] at hop; cases hop
    cases enode with
    | none =>
      dsimp only at h
      simp only [Prod.mk.injEq] at h
      obtain ⟨rfl, rfl⟩ := h
      refine ⟨hepos, fun n hn => ?_⟩
      simp only [Option.some.injEq] at hn
      subst hn
      exact ⟨by simp [wrap, binaryNode]; exact hL.start, by simp [wrap, binaryNode]; omega,
        hwrap _ (fine_binaryNode hL.fine (fine_absent .number 0 epos) (by omega) (by simp; omega))⟩
    | some rhs =>
      dsimp only at h
      have hR := hbuilt rhs rfl
      have hRs := hR.start
      have hRt := hR.stop
      have hL' : Built src a epos (wrap (.ofText src D) (binaryNode L c q rhs)) :=
        ⟨by simp [wrap, binaryNode]; exact hL.start, by simp [wrap, binaryNode]; omega,
          hwrap _ (fine_binaryNode hL.fine hR.fine (by omega) (by omega))⟩
      exact ihc (src.size - epos) (by omega) (by omega) hepos hL' h rfl
  · rw [climb_stop _ hq hc (by simp only [ofText_src]; omega)] at h
    simp only [Prod.mk.injEq] at h
    obtain ⟨rfl, rfl⟩ := h
    exact ⟨hs, fun n hn => by simp only [Option.some.injEq] at hn; subst hn; exact hL⟩

theorem expression_shaped (hp : p ≤ src.size) : Shaped src D p := by
  intro m d k node pos h
  have hres : (operand (.ofText src D) p d k).result =
      ((operand (.ofText src D) p d k).node, (operand (.ofText src D) p d k).pos) := rfl
  obtain ⟨hpos, hb⟩ := operand_shaped ih hp hres
  cases hop : (operand (.ofText src D) p d k).node with
  | none =>
    rw [expression_none _ hop] at h
    simp only [Prod.mk.injEq] at h
    obtain ⟨rfl, rfl⟩ := h
    exact ⟨hpos, fun n hn => by cases hn⟩
  | some left =>
    rw [expression_some _ hop] at h
    exact climb_shaped ih (operand _ p d k).le hpos (hb left hop) h

end shaped

theorem expression_shaped_all {src : ByteArray} {D p : Nat} (hp : p ≤ src.size) :
    Shaped src D p := by
  induction hs : src.size - p using Nat.strongRecOn generalizing p with
  | ind s ih =>
  exact expression_shaped (fun p' hlt hle => ih (src.size - p') (by omega) hle rfl) hp

theorem source_tail_shaped {src : ByteArray} {D : Nat} {r : Node} (hr : Node.All (Fine src) r)
    (hs : r.start = 0) (ht : r.stop = src.size) (hk : r.kind = .source) {q : Nat}
    (hafter : ∀ c ∈ r.children, c.stop ≤ q) :
    ∃ root, some (if q < (Input.ofText src D).src.size then r.push .none (errorToEnd (.ofText src D) q)
      else r) = some root ∧ Node.All (Fine src) root ∧ root.start = 0 ∧ root.stop = src.size := by
  split
  · next hq =>
    obtain ⟨j, hqj, hj, he⟩ := errorToEnd_span (.ofText src D) (Nat.le_of_lt hq)
    simp only [ofText_src] at hj
    refine ⟨_, rfl, ?_, by simp [hs], by simp [ht]⟩
    rw [he]
    exact fine_push hr (fine_leaf (by omega)) (by simp [hs]) (by simp [ht]; omega) (by simp [hk])
      (fun c hc => by simpa using hafter c hc)
  · exact ⟨r, rfl, hr, hs, ht⟩

theorem source_shaped (src : ByteArray) (D : Nat) :
    ∃ root, (source (.ofText src D)).root = some root ∧ Node.All (Fine src) root ∧
      root.start = 0 ∧ root.stop = src.size := by
  obtain ⟨hrun0, _⟩ := run_skipBlank (.ofText src D) (p := 0) (Nat.zero_le _)
  have hleaf : Node.All (Fine src) (Node.leaf .source 0 src.size) := fine_leaf (by omega)
  rw [source]
  dsimp only
  split
  · exact ⟨_, rfl, hleaf, rfl, rfl⟩
  have hE := (expression_shaped_all hrun0.le_size : Shaped src D _) 1 0 0
  generalize expression (.ofText src D) 1 (skipBlank (.ofText src D) 0) 0 0 = E at hE ⊢
  obtain ⟨enode, epos, k', hle⟩ := E
  obtain ⟨hepos, hbuilt⟩ := hE enode epos rfl
  cases enode with
  | none => exact source_tail_shaped hleaf rfl rfl rfl (by simp)
  | some e =>
    have he := hbuilt e rfl
    have hstop := he.stop
    have hq := le_skipBlank (.ofText src D) epos
    have hes : e.head.stop = e.stop := rfl
    -- the tail, if any, starts after the blanks that follow the expression
    exact source_tail_shaped (fine_push hleaf he.fine (by simp; exact Int.le_trans (by omega) he.start)
      (by simp; omega) (by simp) (by simp)) rfl rfl rfl (by simp; omega)

end Grammar

end LiveArith.Syntax
