import LiveArith.Proofs.Syntax.Invariant

/-!
The digests and nesting counts that reuse relies on. Sealing an error-free expression wrapper
records a digest, never zero, and its nesting count.
-/

set_option autoImplicit false

namespace LiveArith.Syntax

open LiveArith.Syntax.Parser Grammar

namespace Node

mutual
def parens : Node → Nat
  | ⟨h, cs⟩ => (if h.kind == .parenthesized then 1 else 0) + parensOf cs

def parensOf : List Node → Nat
  | [] => 0
  | c :: cs => max (parens c) (parensOf cs)
end

variable (n c : Node) (f : Field) (k : Kind) (a b : Int)

-- read through the head: comparing `Node.digest` with a hash by unfolding would unfold the hash
theorem digest_mk (h : Head) (cs : List Node) : (⟨h, cs⟩ : Node).digest = h.digest := rfl

theorem nest_mk (h : Head) (cs : List Node) : (⟨h, cs⟩ : Node).nest = h.nest := rfl

theorem digest_stamped (s : Head) (D : UInt64) (N : Nat) :
    ({ s with digest := D, nest := N } : Head).digest = D := rfl

theorem nest_stamped (s : Head) (D : UInt64) (N : Nat) :
    ({ s with digest := D, nest := N } : Head).nest = N := rfl

theorem parens_eq : n.parens = (if n.kind == .parenthesized then 1 else 0) + parensOf n.children := by
  obtain ⟨h, cs⟩ := n
  rw [parens]
  rfl

theorem parensOf_append (xs ys : List Node) : parensOf (xs ++ ys) = max (parensOf xs) (parensOf ys) := by
  induction xs with
  | nil => simp [parensOf]
  | cons x xs ih => rw [List.cons_append, parensOf, parensOf, ih, Nat.max_assoc]

@[simp] theorem parens_withField : (⟨{ c.head with field := f }, c.children⟩ : Node).parens = c.parens := by
  rw [parens_eq, parens_eq c]
  rfl

@[simp] theorem parens_push :
    (n.push f c).parens = (if n.kind == .parenthesized then 1 else 0) + max (parensOf n.children) c.parens := by
  rw [parens_eq, push_children, parensOf_append, parensOf, parensOf, parens_withField, Nat.max_zero]
  rfl

@[simp] theorem parens_leaf : (leaf k a b).parens = if k == .parenthesized then 1 else 0 := by
  rw [parens_eq]
  rfl

@[simp] theorem parens_token (s : UInt8) : (token s a).parens = 0 := by
  rw [parens_eq]
  simp only [token]
  split <;> rfl

@[simp] theorem parens_absent (s : UInt8) : (absent k s a).parens = if k == .parenthesized then 1 else 0 := by
  rw [parens_eq]
  rfl

end Node

namespace Digest

theorem nonzero_ne_zero (h : UInt64) : nonzero h ≠ 0 := by
  unfold nonzero
  split
  · decide
  · next hne => exact fun hz => hne (by simp [hz])

theorem literal_ne_zero (k : Kind) (text : ByteArray) : literal k text ≠ 0 := nonzero_ne_zero _

theorem combine_ne_zero (tag : UInt8) (parts : List UInt64) : combine tag parts ≠ 0 :=
  nonzero_ne_zero _

end Digest

/-- What sealing records on an error-free expression wrapper over the text `src`: a digest that
is never zero, the most parenthesized expressions on one path down its subtree, and the two
digests the reuse check compares: over a literal, that of the literal's kind and the wrapper's
own text; over a parenthesized expression, that of its inner expression's digest. -/
structure Sealed (src : ByteArray) (n : Node) : Prop where
  digest_ne : n.digest ≠ 0
  nest_eq : n.nest = n.parens
  literal : ∀ c ∈ n.children.head?, (c.kind = .number ∨ c.kind = .float) →
    n.digest = Digest.literal c.kind (n.content src)
  paren : ∀ c ∈ n.children.head?, c.kind = .parenthesized → ∀ inner, c.child? .inner = some inner →
    n.digest = Digest.combine Digest.tagParenthesized [inner.digest]

def SealedAll (src : ByteArray) (n : Node) : Prop :=
  Node.All (fun m => m.kind = .expression → m.hasError = false → Sealed src m) n

/-- What a parse returns: sealed throughout, and an expression wrapper unless it holds an error. -/
structure Stamped (src : ByteArray) (n : Node) : Prop where
  all : SealedAll src n
  wrapper : n.hasError = false → n.kind = .expression

section closure

variable {src : ByteArray}

theorem Sealed.of_detach {n : Node} (h : Sealed src n.detach) : Sealed src n :=
  ⟨h.digest_ne, h.nest_eq.trans (Node.parens_withField _ _), h.literal, h.paren⟩

theorem sealedAll_withField {c : Node} (f : Field) (h : SealedAll src c) :
    SealedAll src ⟨{ c.head with field := f }, c.children⟩ := by
  cases h with
  | intro hc hcs =>
    refine .intro (fun hk he => ?_) hcs
    obtain ⟨h1, h2, h3, h4⟩ := hc hk he
    exact ⟨h1, by rw [Node.parens_withField]; exact h2, h3, h4⟩

theorem sealedAll_leaf {k : Kind} (hk : k ≠ .expression) (a b : Int) :
    SealedAll src (Node.leaf k a b) :=
  Node.all_leaf fun h => absurd h hk

theorem sealedAll_token (s : UInt8) (a : Int) : SealedAll src (Node.token s a) :=
  .intro (fun h => by simp only [Node.token, Node.kind] at h; split at h <;> cases h) (by simp)

theorem sealedAll_absent (k : Kind) (s : UInt8) (a : Int) : SealedAll src (Node.absent k s a) :=
  .intro (fun _ h => by cases h) (by simp [Node.absent])

theorem sealedAll_push {n c : Node} (f : Field) (hk : n.kind ≠ .expression) (hn : SealedAll src n)
    (hc : SealedAll src c) : SealedAll src (n.push f c) := by
  refine .intro (fun h => absurd (by simpa using h) hk) fun c' hc' => ?_
  simp only [Node.push_children, List.mem_append, List.mem_singleton] at hc'
  rcases hc' with hc' | rfl
  · exact hn.child hc'
  · exact sealedAll_withField f hc

theorem stamped_error_leaf (a b : Int) : Stamped src (Node.leaf .error a b) :=
  ⟨sealedAll_leaf (by decide) a b, fun h => by cases h⟩

theorem wrap_children (I : Input) (c : Node) :
    (wrap I c).children = [⟨{ c.head with field := .none }, c.children⟩] := by
  simp [wrap]

theorem wrap_kind (I : Input) (c : Node) : (wrap I c).kind = .expression := by
  simp [wrap]

theorem wrap_hasError (I : Input) (c : Node) : (wrap I c).hasError = c.hasError := by
  simp [wrap]

theorem wrap_content (I : Input) (c : Node) (src : ByteArray) :
    (wrap I c).content src = c.content src := by
  simp [Node.content, wrap]

theorem wrap_parens (I : Input) (c : Node) : (wrap I c).parens = c.parens := by
  rw [Node.parens_eq, wrap_children]
  simp [wrap, Node.parensOf]

theorem mem_wrap_head? {I : Input} {c c' : Node} (h : c' ∈ (wrap I c).children.head?) :
    c' = ⟨{ c.head with field := .none }, c.children⟩ := by
  rwa [wrap_children, List.head?_cons, Option.mem_some_iff, eq_comm] at h

theorem wrapped_hasError (c : Node) (a b : Int) :
    ((Node.leaf .expression a b).push .none c).hasError = c.hasError := by
  simp

theorem sealed_wrap_literal (I : Input) (hs : I.src = src) {k : Kind} (hk : k = .number ∨ k = .float)
    (a b : Int) : Sealed src (wrap I (Node.leaf k a b)) := by
  have he : ((Node.leaf .expression a b).push .none (Node.leaf k a b)).hasError = false := by
    rcases hk with rfl | rfl <;> rfl
  have hst : wrap I (Node.leaf k a b) = _ := stamp_literal (I := I) he rfl hk
  have hdig : (wrap I (Node.leaf k a b)).digest = Digest.literal k (Node.clampedSlice src a b) := by
    rw [← hs]
    exact congrArg Node.digest hst
  refine ⟨?_, ?_, fun c hc _ => ?_, fun c hc hk' => ?_⟩
  · rw [hdig]
    exact Digest.literal_ne_zero _ _
  · rw [wrap_parens, Node.parens_leaf]
    rcases hk with rfl | rfl <;> rfl
  · obtain rfl := mem_wrap_head? hc
    rw [wrap_content]
    exact hdig
  · obtain rfl := mem_wrap_head? hc
    rcases hk with rfl | rfl <;> cases hk'

theorem sealed_wrap_paren (I : Input) {c inner : Node} (he : c.hasError = false)
    (hk : c.kind = .parenthesized) (hi : c.child? .inner = some inner)
    (hin : inner.nest = inner.parens) (hp : c.parens = inner.parens + 1) :
    Sealed src (wrap I c) := by
  have hst : wrap I c = _ := stamp_paren (I := I) ((wrapped_hasError _ _ _).trans he) rfl hk hi
  -- read the two stamped fields through the head, never unfolding the digest
  have hdig : (wrap I c).digest = Digest.combine Digest.tagParenthesized [inner.digest] := by
    rw [hst, Node.digest_mk, Node.digest_stamped]
  have hnest : (wrap I c).nest = inner.nest + 1 := by
    rw [hst, Node.nest_mk, Node.nest_stamped]
  refine ⟨?_, ?_, fun c' hc' hk' => ?_, fun c' hc' _ inner' hi' => ?_⟩
  · rw [hdig]
    exact Digest.combine_ne_zero _ _
  · rw [wrap_parens, hnest, hin, hp]
  · obtain rfl := mem_wrap_head? hc'
    rw [Node.field_kind, hk] at hk'
    rcases hk' with hk' | hk' <;> cases hk'
  · obtain rfl := mem_wrap_head? hc'
    obtain rfl : inner' = inner := Option.some.inj (hi'.symm.trans hi)
    exact hdig

theorem sealed_wrap_binary (I : Input) {c l o r : Node} (he : c.hasError = false)
    (hk : c.kind = .binary) (hl : c.child? .left = some l) (ho : c.child? .operator = some o)
    (hr : c.child? .right = some r) (hln : l.nest = l.parens) (hrn : r.nest = r.parens)
    (hp : c.parens = max l.parens r.parens) : Sealed src (wrap I c) := by
  have hst : wrap I c = _ :=
    stamp_binary (I := I) ((wrapped_hasError _ _ _).trans he) rfl hk hl ho hr
  have hdig : (wrap I c).digest = Digest.combine Digest.tagBinary [l.digest, o.sym.toUInt64, r.digest] := by
    rw [hst, Node.digest_mk, Node.digest_stamped]
  have hnest : (wrap I c).nest = max l.nest r.nest := by
    rw [hst, Node.nest_mk, Node.nest_stamped]
  refine ⟨?_, ?_, fun c' hc' hk' => ?_, fun c' hc' hk' => ?_⟩
  · rw [hdig]
    exact Digest.combine_ne_zero _ _
  · rw [wrap_parens, hnest, hln, hrn, hp]
  · obtain rfl := mem_wrap_head? hc'
    rw [Node.field_kind, hk] at hk'
    rcases hk' with hk' | hk' <;> cases hk'
  · obtain rfl := mem_wrap_head? hc'
    rw [Node.field_kind, hk] at hk'
    cases hk'

theorem stamped_wrap (I : Input) {c : Node} (hc : SealedAll src c)
    (hseal : c.hasError = false → Sealed src (wrap I c)) : Stamped src (wrap I c) := by
  refine ⟨.intro (fun _ he => hseal (by rwa [wrap_hasError] at he)) fun c' hc' => ?_,
    fun _ => wrap_kind I _⟩
  rw [wrap_children, List.mem_singleton] at hc'
  subst hc'
  exact sealedAll_withField _ hc

theorem stamped_wrap_literal (I : Input) (hs : I.src = src) {k : Kind} (hk : k = .number ∨ k = .float)
    (a b : Int) : Stamped src (wrap I (Node.leaf k a b)) :=
  stamped_wrap I (sealedAll_leaf (by rcases hk with rfl | rfl <;> decide) a b)
    fun _ => sealed_wrap_literal I hs hk a b

theorem Node.parensOf_push_children (n c : Node) (f : Field) :
    Node.parensOf (n.push f c).children = max (Node.parensOf n.children) c.parens := by
  rw [Node.push_children, Node.parensOf_append, Node.parensOf, Node.parensOf, Node.parens_withField,
    Nat.max_zero]

theorem parens_paren (a b x : Int) (inner close : Node) :
    ((((Node.leaf .parenthesized a b).push .none (Node.token 40 x)).push .inner inner).push .none
      close).parens = 1 + max inner.parens close.parens := by
  rw [Node.parens_eq, Node.parensOf_push_children, Node.parensOf_push_children,
    Node.parensOf_push_children]
  simp only [Node.push_kind, Node.leaf_kind, Node.leaf_children, Node.parensOf, Node.parens_token,
    beq_self_eq_true, if_true]
  omega

theorem parens_binary (a b : Int) (L : Node) (s : UInt8) (x : Int) (R : Node) :
    ((((Node.leaf .binary a b).push .left L).push .operator (Node.token s x)).push .right
      R).parens = max L.parens R.parens := by
  rw [Node.parens_eq, Node.parensOf_push_children, Node.parensOf_push_children,
    Node.parensOf_push_children]
  simp only [Node.push_kind, Node.leaf_kind, Node.leaf_children, Node.parensOf, Node.parens_token,
    beq_iff_eq, reduceCtorEq, if_false]
  omega

theorem paren_hasError (a b x : Int) (inner close : Node) :
    ((((Node.leaf .parenthesized a b).push .none (Node.token 40 x)).push .inner inner).push .none
      close).hasError = (inner.hasError || close.hasError) := by
  simp only [Node.push_hasError, Node.leaf_hasError, Node.token_hasError, reduceCtorEq,
    decide_false, Bool.false_or]

theorem binary_hasError (a b : Int) (L : Node) (s : UInt8) (x : Int) (R : Node) :
    ((((Node.leaf .binary a b).push .left L).push .operator (Node.token s x)).push .right
      R).hasError = (L.hasError || R.hasError) := by
  simp only [Node.push_hasError, Node.leaf_hasError, Node.token_hasError, reduceCtorEq,
    decide_false, Bool.false_or, Bool.or_false]

theorem paren_child_inner (a b x : Int) (inner close : Node) :
    ((((Node.leaf .parenthesized a b).push .none (Node.token 40 x)).push .inner inner).push .none
      close).child? .inner = some ⟨{ inner.head with field := .inner }, inner.children⟩ := rfl

theorem stamped_wrap_paren (I : Input) {a b x : Int} {inner close : Node} (hi : Stamped src inner)
    (hc : SealedAll src close) (hcp : close.parens = 0) :
    Stamped src (wrap I ((((Node.leaf .parenthesized a b).push .none (Node.token 40 x)).push .inner
      inner).push .none close)) := by
  refine stamped_wrap I (sealedAll_push _ (by simp) (sealedAll_push _ (by simp)
    (sealedAll_push _ (by simp) (sealedAll_leaf (by decide) _ _) (sealedAll_token _ _)) hi.all) hc)
    fun he => ?_
  have hie : inner.hasError = false := by
    rw [paren_hasError, Bool.or_eq_false_iff] at he
    exact he.1
  refine sealed_wrap_paren I he rfl (paren_child_inner a b x inner close)
    (by rw [Node.parens_withField]; exact (hi.all.self (hi.wrapper hie) hie).nest_eq) ?_
  rw [parens_paren, hcp, Node.parens_withField]
  omega

theorem stamped_wrap_binary (I : Input) {a b x : Int} {L R : Node} {s : UInt8} (hl : Stamped src L)
    (hr : Stamped src R) :
    Stamped src (wrap I ((((Node.leaf .binary a b).push .left L).push .operator
      (Node.token s x)).push .right R)) := by
  refine stamped_wrap I (sealedAll_push _ (by simp) (sealedAll_push _ (by simp)
    (sealedAll_push _ (by simp) (sealedAll_leaf (by decide) _ _) hl.all) (sealedAll_token _ _)) hr.all)
    fun he => ?_
  have he' := he
  rw [binary_hasError, Bool.or_eq_false_iff] at he'
  refine sealed_wrap_binary I he rfl rfl rfl rfl
    (by rw [Node.parens_withField]; exact (hl.all.self (hl.wrapper he'.1) he'.1).nest_eq)
    (by rw [Node.parens_withField]; exact (hr.all.self (hr.wrapper he'.2) he'.2).nest_eq) ?_
  rw [parens_binary, Node.parens_withField, Node.parens_withField]

end closure

theorem scanNumber_kind (I : Input) {q e : Nat} {k : Kind} (h : scanNumber I q = (k, e)) :
    k = .number ∨ k = .float := by
  rw [scanNumber_eq] at h
  split at h
  · exact .inr (Prod.mk.inj h).1.symm
  · split at h <;> exact .inl (Prod.mk.inj h).1.symm

def StampsAt (src : ByteArray) (D p : Nat) : Prop :=
  ∀ m d k node pos, (expression (.ofText src D) m p d k).result = (node, pos) →
    ∀ n, node = some n → Stamped src n

section stamps

variable {src : ByteArray} {D p : Nat} (ih : ∀ p', p < p' → p < src.size → StampsAt src D p')
include ih

theorem paren_stamps {q d k pos : Nat} {node : Option Node} (hpq : p ≤ q) (hq : q < src.size)
    (h : (parenthesized (.ofText src D) q d k).result = (node, pos)) :
    ∀ n, node = some n → Stamped src n := by
  by_cases hdeep : D ≤ d
  · -- too deep: one ERROR node to the end
    rw [parenthesized_deep _ hdeep] at h
    obtain ⟨rfl, rfl⟩ := Prod.mk.inj h
    rintro n ⟨⟩
    obtain ⟨j, -, -, he⟩ := errorToEnd_span (.ofText src D) (q := q) (Nat.le_of_lt hq)
    rw [he]
    exact stamped_error_leaf _ _
  have hdD := Nat.lt_of_not_le hdeep
  by_cases hempty : peek (.ofText src D) (skipBlank (.ofText src D) (q + 1)) = 41 ∧
      skipBlank (.ofText src D) (q + 1) < src.size
  · -- `()`: one ERROR node over both parentheses
    rw [parenthesized_empty _ hdD hq hempty.1 hempty.2] at h
    obtain ⟨rfl, rfl⟩ := Prod.mk.inj h
    rintro n ⟨⟩
    exact ⟨sealedAll_push _ (by simp) (sealedAll_push _ (by simp) (sealedAll_leaf (by decide) _ _)
      (sealedAll_token _ _)) (sealedAll_token _ _), fun he => by simp at he⟩
  rw [parenthesized_inner _ hdD hq hempty] at h
  dsimp only at h
  have hq1 := le_skipBlank (.ofText src D) (q + 1)
  have hE := ih (skipBlank (.ofText src D) (q + 1)) (by omega) (by omega) 1 (d + 1) k
  generalize expression (.ofText src D) 1 (skipBlank (.ofText src D) (q + 1)) (d + 1) k = E at h hE
  obtain ⟨enode, epos, k', hle⟩ := E
  -- the inner node, or a missing number in its place
  have hinner : Stamped src (enode.getD (Node.absent .number 0 epos)) := by
    cases enode with
    | none => exact ⟨sealedAll_absent _ _ _, fun he => by cases he⟩
    | some n => exact hE _ _ rfl n rfl
  dsimp only at h
  split at h
  · obtain ⟨rfl, rfl⟩ := Prod.mk.inj h
    rintro n ⟨⟩
    exact stamped_wrap_paren _ hinner (sealedAll_token _ _) (Node.parens_token _ _)
  · obtain ⟨rfl, rfl⟩ := Prod.mk.inj h
    rintro n ⟨⟩
    exact stamped_wrap_paren _ hinner (sealedAll_absent _ _ _) rfl

theorem operand_stamps {d k pos : Nat} {node : Option Node}
    (h : (operand (.ofText src D) p d k).result = (node, pos)) :
    ∀ n, node = some n → Stamped src n := by
  rw [operand_fresh _ (ofText_get? _)] at h
  rcases fresh_cases (.ofText src D) (le_skipBlank _ p) (d := d) (r := k) with
    ⟨hf, -, hqs⟩ | ⟨kind, e, hf, hscan, -⟩ | hf
  · rw [hf] at h
    exact paren_stamps ih (le_skipBlank _ p) hqs h
  · -- a literal's wrapper
    rw [hf] at h
    obtain ⟨rfl, rfl⟩ := Prod.mk.inj h
    rintro n ⟨⟩
    exact stamped_wrap_literal (.ofText src D) rfl (scanNumber_kind _ hscan) _ _
  · rw [hf] at h
    obtain ⟨rfl, rfl⟩ := Prod.mk.inj h
    rintro n ⟨⟩

theorem climb_stamps {m d k pos p₀ : Nat} {L : Node} {node : Option Node} (hp : p ≤ p₀)
    (hL : Stamped src L) (h : (climb (.ofText src D) m L p₀ d k).result = (node, pos)) :
    ∀ n, node = some n → Stamped src n := by
  -- the climb moves its cursor past each operator it takes: induction on what is left
  induction hsz : src.size - p₀ using Nat.strongRecOn generalizing L p₀ k with
  | ind s ihc =>
  obtain ⟨q, hq⟩ : ∃ q, skipBlank (.ofText src D) p₀ = q := ⟨_, rfl⟩
  obtain ⟨c, hc⟩ : ∃ c, peek (.ofText src D) q = c := ⟨_, rfl⟩
  have hpq : p₀ ≤ q := hq ▸ le_skipBlank _ p₀
  by_cases hgo : 0 < power c ∧ m ≤ power c ∧ q < src.size
  · obtain ⟨hpow, hmc, hqs⟩ := hgo
    rw [climb_step _ hq hc hpow hmc hqs] at h
    have hq1 := le_skipBlank (.ofText src D) (q + 1)
    have hE := ih (skipBlank (.ofText src D) (q + 1)) (by omega) (by omega) (rightBound c) d k
    generalize expression (.ofText src D) (rightBound c) (skipBlank (.ofText src D) (q + 1)) d k = E
      at h hE
    obtain ⟨enode, epos, k', hle⟩ := E
    cases enode with
    | none =>
      dsimp only at h
      obtain ⟨rfl, rfl⟩ := Prod.mk.inj h
      rintro n ⟨⟩
      exact stamped_wrap_binary _ hL ⟨sealedAll_absent _ _ _, fun he => by cases he⟩
    | some rhs =>
      dsimp only at h
      exact ihc (src.size - epos) (by omega) (by omega)
        (stamped_wrap_binary _ hL (hE _ _ rfl rhs rfl)) h rfl
  · rw [climb_stop _ hq hc (by simp only [ofText_src]; omega)] at h
    obtain ⟨rfl, rfl⟩ := Prod.mk.inj h
    rintro n ⟨⟩
    exact hL

theorem expression_stamps : StampsAt src D p := by
  intro m d k node pos h
  have hres : (operand (.ofText src D) p d k).result =
      ((operand (.ofText src D) p d k).node, (operand (.ofText src D) p d k).pos) := rfl
  cases hop : (operand (.ofText src D) p d k).node with
  | none =>
    rw [expression_none _ hop] at h
    obtain ⟨rfl, rfl⟩ := Prod.mk.inj h
    rintro n ⟨⟩
  | some left =>
    rw [expression_some _ hop] at h
    rw [hop] at hres
    exact climb_stamps ih (operand _ p d k).le (operand_stamps ih hres left rfl) h

end stamps

theorem expression_stamps_all (src : ByteArray) (D p : Nat) : StampsAt src D p := by
  induction hs : src.size - p using Nat.strongRecOn generalizing p with
  | ind s ih =>
  exact expression_stamps fun p' hlt hps => ih (src.size - p') (by omega) p' rfl

theorem source_sealed (src : ByteArray) (D : Nat) {root : Node}
    (h : (source (.ofText src D)).root = some root) : SealedAll src root := by
  have hleaf : SealedAll src (Node.leaf .source 0 src.size) := sealedAll_leaf (by decide) _ _
  -- what follows the expression, if anything, is one ERROR node
  have htail : ∀ r : Node, r.kind = .source → SealedAll src r → ∀ q : Nat,
      SealedAll src (if q < (Input.ofText src D).src.size then
        r.push .none (errorToEnd (.ofText src D) q) else r) := by
    intro r hk hr q
    split
    · next hq =>
      obtain ⟨j, -, -, he⟩ := errorToEnd_span (.ofText src D) (Nat.le_of_lt hq)
      rw [he]
      exact sealedAll_push _ (by simp [hk]) hr (sealedAll_leaf (by decide) _ _)
    · exact hr
  rw [source] at h
  dsimp only at h
  split at h
  · cases h
    exact hleaf
  have hE := expression_stamps_all src D (skipBlank (.ofText src D) 0) 1 0 0
  generalize expression (.ofText src D) 1 (skipBlank (.ofText src D) 0) 0 0 = E at h hE
  obtain ⟨enode, epos, k', hle⟩ := E
  cases enode with
  | none =>
    cases h
    exact htail _ rfl hleaf _
  | some e =>
    cases h
    exact htail _ rfl (sealedAll_push _ (by simp) hleaf (hE _ _ rfl e rfl).all) _

section check

variable {I : Input} {q d : Nat} {n c : Node} {rest : List Node}

theorem fits_literal_iff (hq : n.start = q) (hs : n.stop ≤ I.src.size) (hlt : (q : Int) < n.stop)
    (hc : n.children = c :: rest) (hk : c.kind = .number ∨ c.kind = .float)
    (hd : n.digest = Digest.literal c.kind (n.content I.src)) :
    fits I q d n = true ↔ scanNumber I q = (c.kind, n.stop.toNat) := by
  refine ⟨fun h => fits_literal h hc hk, fun hscan => ?_⟩
  have hstop : ((n.stop.toNat : Nat) : Int) = n.stop := by omega
  unfold fits
  rw [hc]
  rcases hk with hk | hk <;>
  · simp only [hk, hscan, hd, Node.content, hq, hstop, hs]
    simp

theorem fits_paren_iff {inner : Node} (hq : n.start = q) (hs : n.stop ≤ I.src.size)
    (hc : n.children = c :: rest) (hk : c.kind = .parenthesized)
    (hopen : peek I q = 40) (hclose : peek I (n.stop.toNat - 1) = 41)
    (hi : c.child? .inner = some inner)
    (hd : n.digest = Digest.combine Digest.tagParenthesized [inner.digest]) :
    fits I q d n = true ↔ (n.nest : Int) ≤ I.maxDepth - d := by
  unfold fits
  rw [hc]
  simp only [hk, hi, hd, hq, Int.toNat_natCast, hopen, hclose, hs]
  simp

end check

namespace Grammar

theorem Term.node_stamped (src : ByteArray) (t : Term) : Stamped src (t.node src) := by
  induction t with
  | lit f i j =>
    exact stamped_wrap_literal (.ofText src 0) rfl (by cases f <;> simp [literalKind]) i j
  | paren i t c ih =>
    exact stamped_wrap_paren (.ofText src 0) ih (sealedAll_token _ _) (Node.parens_token _ _)
  | binary l op q r ihl ihr => exact stamped_wrap_binary (.ofText src 0) ihl ihr

variable {u : ByteArray} {n : Node}

theorem Good.sealed (hg : Good u n) : Sealed u n := by
  obtain ⟨t, -, -, -, hn⟩ := hg
  refine Sealed.of_detach ?_
  rw [hn]
  exact (Term.node_stamped u t).all.self (by simp) (by simp)

variable {I : Input} {q d : Nat} {c : Node} {rest : List Node}

theorem Good.paren_fits (hg : Good I.src n) (hq : n.start = q) (hcs : n.children = c :: rest)
    (hk : c.kind = .parenthesized) :
    (fits I q d n = true ↔ (n.nest : Int) ≤ I.maxDepth - d) ∧
    ∀ k, ((n.nest : Int) ≤ I.maxDepth - d ↔
      (parenthesized (.ofText I.src I.maxDepth) q d k).result = (some n.detach, n.stop.toNat)) := by
  have hseal := hg.sealed
  obtain ⟨hlt, hs⟩ := hg.span
  have hc : c ∈ n.children.head? := by rw [hcs]; rfl
  obtain ⟨t, hl, hd, hgr, hn⟩ := hg
  have hterm : (t.node I.src).children = c :: rest := by rw [← hn, Node.detach_children, hcs]
  rcases level_eq_four hl with ⟨f, i, j, rfl⟩ | ⟨i, t, e, rfl⟩
  · -- a literal's wrapper holds no parenthesized node
    rw [Term.node, wrap_children] at hterm
    obtain ⟨rfl, -⟩ := List.cons.inj hterm
    cases f <;> cases hk
  have hstart : n.start = i := by rw [← Node.detach_start, hn, Term.node_start]; rfl
  have hstop : n.stop = e + 1 := by rw [← Node.detach_stop, hn, Term.node_stop]; rfl
  have hnest : n.nest = t.depth + 1 := by rw [← Node.detach_nest, hn, Term.node_nest]; rfl
  obtain rfl : q = i := by omega
  cases hd with
  | paren h40 hrun1 hdt hrun2 h41 =>
  -- the inner expression the check finds, and the digest sealing recorded from it
  obtain ⟨inner, hi⟩ : ∃ inner, c.child? .inner = some inner := by
    rw [Term.node, wrap_children] at hterm
    rw [← (List.cons.inj hterm).1]
    exact ⟨_, rfl⟩
  refine ⟨fits_paren_iff hstart hs hcs hk h40
    (by rw [show n.stop.toNat - 1 = e by omega]; exact h41) hi (hseal.paren c hc hk inner hi),
    fun k => ⟨fun hle => ?_, fun hres => ?_⟩⟩
  · rw [hn, parenthesized_complete (.paren h40 hrun1 hdt hrun2 h41) hgr (by omega)]
    congr
    omega
  · obtain ⟨t', hr, -⟩ := paren_sound (fun p' _ hle => expression_sound_all hle) h40
      (lt_size_of_byteAt h40 (by decide)) hres (by rw [hn]; exact Term.node_clean ..)
    have : n.nest = t'.depth := by rw [← Node.detach_nest, hr.node, Term.node_nest]
    have := hr.depth
    omega

end Grammar

/-- In every tree a session holds, every error-free expression wrapper is sealed. So the check
on a candidate that the edited tree offers to the next parse needs no digest to decide: a
parenthesized candidate is taken at depth `d` exactly when its nesting count fits in what the
depth limit leaves, which is exactly when a fresh read of it there builds it again; a literal
candidate is taken exactly when rescanning at its start gives its kind and its end. -/
theorem sealed_digests_decide_reuse {limits : Limits} {u v : ByteArray} {T : Tree}
    {es : List InputEdit} (hT : Reparsed limits u T) (hes : Edits u es v) :
    (∀ root, T.root = some root → SealedAll u root) ∧
    ∀ (q : Nat) (n c : Node), (es.foldl Tree.edit T).reusable.get? (q : Int) = some n →
      c ∈ n.children.head? → ∀ d : Nat,
      (c.kind = .parenthesized →
        (fits { src := v, reuse := (es.foldl Tree.edit T).reusable, maxDepth := limits.maxDepth }
            q d n = true ↔ (n.nest : Int) ≤ limits.maxDepth - d) ∧
        ∀ k, ((n.nest : Int) ≤ limits.maxDepth - d ↔
          (parenthesized (.ofText v limits.maxDepth) q d k).result = (some n.detach, n.stop.toNat))) ∧
      (c.kind = .number ∨ c.kind = .float →
        (fits { src := v, reuse := (es.foldl Tree.edit T).reusable, maxDepth := limits.maxDepth }
            q d n = true ↔ scanNumber (.ofText v limits.maxDepth) q = (c.kind, n.stop.toNat))) := by
  refine ⟨fun root hr => source_sealed u limits.maxDepth (by rw [← hT.root_eq]; exact hr), ?_⟩
  intro q n c hn hc d
  -- the candidates are the operands the edited tree offers, each good in the new text
  obtain ⟨hq, hg⟩ := (hes.offers hT.offers).faithful _ _ hn
  obtain ⟨rest, hcs⟩ := List.head?_eq_some_iff.1 hc
  refine ⟨fun hk => hg.paren_fits hq hcs hk, fun hk => ?_⟩
  obtain ⟨hlt, hs⟩ := hg.span
  -- name the input: left to unification, its text would be sought inside the digest
  rw [fits_literal_iff (I := ⟨v, (es.foldl Tree.edit T).reusable, limits.maxDepth⟩) hq hs (by omega)
    hcs hk (hg.sealed.literal c hc hk)]
  exact Eq.congr_left (scanNumber_congr (I := ⟨v, (es.foldl Tree.edit T).reusable, limits.maxDepth⟩)
    (J := .ofText v limits.maxDepth) rfl q)

/-- A session that parses "(1)+2" and retypes its last operand as "34"; the edited tree still
offers the parenthesized operand at the start. -/
theorem sealed_digests_retyped :
    Reparsed {} (.mk #[40, 49, 41, 43, 50]) (source (.ofText (.mk #[40, 49, 41, 43, 50]) 512)) ∧
    Edits (.mk #[40, 49, 41, 43, 50]) [⟨4, 5, 6⟩] (.mk #[40, 49, 41, 43, 51, 52]) ∧
    (∀ root, (source (.ofText (.mk #[40, 49, 41, 43, 50]) 512)).root = some root →
      SealedAll (.mk #[40, 49, 41, 43, 50]) root) ∧
    ∀ (q : Nat) (n c : Node), ([⟨4, 5, 6⟩].foldl Tree.edit
        (source (.ofText (.mk #[40, 49, 41, 43, 50]) 512))).reusable.get? (q : Int) = some n →
      c ∈ n.children.head? → ∀ d : Nat,
      (c.kind = .parenthesized →
        (fits
            { src := .mk #[40, 49, 41, 43, 51, 52]
              reuse := ([⟨4, 5, 6⟩].foldl Tree.edit
                (source (.ofText (.mk #[40, 49, 41, 43, 50]) 512))).reusable
              maxDepth := ({} : Limits).maxDepth } q d n = true ↔
          (n.nest : Int) ≤ ({} : Limits).maxDepth - d) ∧
        ∀ k, ((n.nest : Int) ≤ ({} : Limits).maxDepth - d ↔
          (parenthesized (.ofText (.mk #[40, 49, 41, 43, 51, 52]) ({} : Limits).maxDepth) q d k).result =
            (some n.detach, n.stop.toNat))) ∧
      (c.kind = .number ∨ c.kind = .float →
        (fits
            { src := .mk #[40, 49, 41, 43, 51, 52]
              reuse := ([⟨4, 5, 6⟩].foldl Tree.edit
                (source (.ofText (.mk #[40, 49, 41, 43, 50]) 512))).reusable
              maxDepth := ({} : Limits).maxDepth } q d n = true ↔
          scanNumber (.ofText (.mk #[40, 49, 41, 43, 51, 52]) ({} : Limits).maxDepth) q =
            (c.kind, n.stop.toNat))) := by
  have hT : Reparsed {} (.mk #[40, 49, 41, 43, 50])
      (source (.ofText (.mk #[40, 49, 41, 43, 50]) 512)) := .fresh (parse_none (by decide))
  have hd : Describes ⟨4, 5, 6⟩ (.mk #[40, 49, 41, 43, 50]) (.mk #[40, 49, 41, 43, 51, 52]) :=
    ⟨by decide, by decide, by decide, by decide, by decide, rfl, rfl, by decide, by decide⟩
  have hes := Edits.cons hd (.nil _)
  exact ⟨hT, hes, sealed_digests_decide_reuse hT hes⟩

end LiveArith.Syntax
