import LiveArith.Proofs.Syntax.Scan

/-!
The parser one branch at a time. Each lemma says what one function gives, as its node and its
cursor, in one case of its code, in terms of the functions it calls; later proofs cite these and
never unfold the parser.
-/

set_option autoImplicit false

namespace LiveArith.Syntax.Parser

open Grammar

def Parsed.result {p : Nat} (x : Parsed p) : Option Node × Nat := (x.node, x.pos)

def binaryNode (left : Node) (c : UInt8) (q : Nat) (right : Node) : Node :=
  (((Node.leaf .binary left.start (max right.stop (Node.token c q).stop)).push .left left).push
    .operator (Node.token c q)).push .right right

def parenNode (q : Nat) (inner close : Node) : Node :=
  (((Node.leaf .parenthesized q (max close.stop inner.stop)).push .none (Node.token 40 q)).push
    .inner inner).push .none close

variable (I : Input) {m p d r : Nat}

theorem expression_none (h : (operand I p d r).node = none) :
    (expression I m p d r).result = (none, (operand I p d r).pos) := by
  rw [expression]
  split
  · rfl
  · next hs => rw [h] at hs; cases hs

theorem expression_some {left : Node} (h : (operand I p d r).node = some left) :
    (expression I m p d r).result =
      (climb I m left (operand I p d r).pos d (operand I p d r).reused).result := by
  rw [expression]
  split
  · next hs => rw [h] at hs; cases hs
  · next left' hs =>
    rw [h] at hs
    cases hs
    rfl

section climb

variable {left : Node} {q : Nat} {c : UInt8}

theorem climb_stop (hq : skipBlank I p = q) (hc : peek I q = c)
    (h : power c = 0 ∨ power c < m ∨ I.src.size ≤ q) :
    (climb I m left p d r).result = (some left, p) := by
  rw [climb]
  subst hq hc
  rw [dif_pos (by simpa [precedence_eq, or_assoc] using h)]
  rfl

theorem climb_step (hq : skipBlank I p = q) (hc : peek I q = c) (hpos : 0 < power c)
    (hm : m ≤ power c) (hlt : q < I.src.size) :
    (climb I m left p d r).result =
      match (expression I (rightBound c) (skipBlank I (q + 1)) d r).node with
      | none => (some (wrap I (binaryNode left c q
          (Node.absent .number 0 (expression I (rightBound c) (skipBlank I (q + 1)) d r).pos))),
          (expression I (rightBound c) (skipBlank I (q + 1)) d r).pos)
      | some rhs => (climb I m (wrap I (binaryNode left c q rhs))
          (expression I (rightBound c) (skipBlank I (q + 1)) d r).pos d
          (expression I (rightBound c) (skipBlank I (q + 1)) d r).reused).result := by
  rw [climb]
  subst hq hc
  have hcond : ¬((power (peek I (skipBlank I p)) == 0 || decide (power (peek I (skipBlank I p)) < m) ||
      decide (I.src.size ≤ skipBlank I p)) = true) := by
    simp only [Bool.or_eq_true, beq_iff_eq, decide_eq_true_eq, not_or]
    omega
  rw [dif_neg (by simpa [precedence_eq] using hcond)]
  have hnext : (if (precedence (peek I (skipBlank I p))).2 = true then
      (precedence (peek I (skipBlank I p))).1 else (precedence (peek I (skipBlank I p))).1 + 1) =
      rightBound (peek I (skipBlank I p)) := by
    simp only [precedence_eq, rightBound]
    split <;> simp [*]
  have hexp : expression I (if (precedence (peek I (skipBlank I p))).2 = true then
      (precedence (peek I (skipBlank I p))).1 else (precedence (peek I (skipBlank I p))).1 + 1)
      (skipBlank I (skipBlank I p + 1)) d r =
      expression I (rightBound (peek I (skipBlank I p))) (skipBlank I (skipBlank I p + 1)) d r := by
    rw [hnext]
  dsimp only
  split
  · next heq =>
    simp only [Parsed.result]
    rw [hexp] at heq ⊢
    simp only [heq]
    rfl
  · next rhs heq =>
    simp only [Parsed.result]
    rw [hexp] at heq ⊢
    simp only [heq]
    rfl

end climb

theorem operand_fresh (h : I.reuse.get? (skipBlank I p : Int) = none) :
    (operand I p d r).result = (fresh I (skipBlank I p) d r (le_skipBlank I p)).result := by
  rw [operand]
  split
  · next n hn => rw [h] at hn; cases hn
  · rfl

theorem operand_reuse {n : Node} (h : I.reuse.get? (skipBlank I p : Int) = some n)
    (hf : fits I (skipBlank I p) d n = true) :
    (operand I p d r).result = (some n, max (skipBlank I p) n.stop.toNat) := by
  rw [operand]
  split
  · next n' hn =>
    rw [h] at hn
    cases hn
    rw [if_pos hf]
    rfl
  · next hn => rw [h] at hn; cases hn

theorem operand_misfit {n : Node} (h : I.reuse.get? (skipBlank I p : Int) = some n)
    (hf : fits I (skipBlank I p) d n = false) :
    (operand I p d r).result = (fresh I (skipBlank I p) d r (le_skipBlank I p)).result := by
  rw [operand]
  split
  · next n' hn =>
    rw [h] at hn
    cases hn
    rw [if_neg (by simp [hf])]
  · next hn => simp only [h, reduceCtorEq] at hn

section fresh

variable {q : Nat} {p' : Nat} (hpq : p' ≤ q)

theorem fresh_paren (hc : peek I q = 40) (hlt : q < I.src.size) :
    (fresh I q d r hpq).result = (parenthesized I q d r).result := by
  rw [fresh, if_pos (by simp [hc, hlt])]
  rfl

theorem fresh_literal {k : Kind} {e : Nat} (hc : peek I q ≠ 40)
    (hd : isDigit (peek I q) = true ∨ peek I q = 46 ∨ peek I q = 45)
    (hs : scanNumber I q = (k, e)) (he : q < e) :
    (fresh I q d r hpq).result = (some (wrap I (Node.leaf k q e)), e) := by
  rw [fresh, if_neg (by simp [hc]), if_pos (by simpa [or_assoc] using hd)]
  simp only [hs]
  rw [dif_neg (Nat.not_le.2 he)]
  rfl

theorem fresh_cases :
    ((fresh I q d r hpq).result = (parenthesized I q d r).result ∧
        peek I q = 40 ∧ q < I.src.size) ∨
      (∃ (k : Kind) (e : Nat), (fresh I q d r hpq).result = (some (wrap I (Node.leaf k q e)), e) ∧
        scanNumber I q = (k, e) ∧ q < e) ∨
      (fresh I q d r hpq).result = (none, q) := by
  rw [fresh]
  split
  · next hc =>
    simp only [Bool.and_eq_true, beq_iff_eq, decide_eq_true_eq] at hc
    exact .inl ⟨rfl, hc⟩
  · split
    · dsimp only
      split
      · exact .inr (.inr rfl)
      · next he => exact .inr (.inl ⟨_, _, rfl, rfl, Nat.lt_of_not_le he⟩)
    · exact .inr (.inr rfl)

end fresh

section parenthesized

variable {q : Nat}

theorem parenthesized_deep (h : I.maxDepth ≤ d) :
    (parenthesized I q d r).result = (some (errorToEnd I q), max q I.src.size) := by
  rw [parenthesized, if_pos h]
  rfl

theorem parenthesized_empty (h : d < I.maxDepth) (hlt : q < I.src.size)
    (hc : peek I (skipBlank I (q + 1)) = 41) (hlt1 : skipBlank I (q + 1) < I.src.size) :
    (parenthesized I q d r).result =
      (some (((Node.leaf .error q (skipBlank I (q + 1) + 1)).push .none (Node.token 40 q)).push
        .none (Node.token 41 (skipBlank I (q + 1)))), skipBlank I (q + 1) + 1) := by
  rw [parenthesized, if_neg (Nat.not_le.2 h), dif_pos hlt, if_pos (by simp [hc, hlt1])]
  rfl

theorem parenthesized_inner (h : d < I.maxDepth) (hlt : q < I.src.size)
    (hc : ¬(peek I (skipBlank I (q + 1)) = 41 ∧ skipBlank I (q + 1) < I.src.size)) :
    (parenthesized I q d r).result =
      let rr := expression I 1 (skipBlank I (q + 1)) (d + 1) r
      let inner := rr.node.getD (Node.absent .number 0 rr.pos)
      let q2 := skipBlank I rr.pos
      if peek I q2 = 41 ∧ q2 < I.src.size then
        (some (wrap I (parenNode q inner (Node.token 41 q2))), q2 + 1)
      else
        (some (wrap I (parenNode q inner (Node.absent .punctuation 41 (max inner.stop (q + 1))))),
          q2) := by
  rw [parenthesized, if_neg (Nat.not_le.2 h), dif_pos hlt, if_neg (by simpa using hc)]
  simp only [Parsed.result]
  -- the inner parse is opaque here: only its node and cursor are read
  generalize expression I 1 (skipBlank I (q + 1)) (d + 1) r = rr
  obtain ⟨node, pos, _, _⟩ := rr
  by_cases hcl : peek I (skipBlank I pos) = 41 ∧ skipBlank I pos < I.src.size
  · cases node <;> simp [hcl, parenNode]
  · cases node <;> simp [hcl, parenNode]

theorem parenthesized_end (hlt : ¬q < I.src.size) (h : d < I.maxDepth) :
    (parenthesized I q d r).result = (none, q) := by
  rw [parenthesized, if_neg (Nat.not_le.2 h), dif_neg hlt]
  rfl

end parenthesized

end LiveArith.Syntax.Parser
