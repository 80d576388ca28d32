import LiveArith.Stress
import LiveArith.Proofs.Syntax.Phrase
import LiveArith.Proofs.Syntax.Seal
import LiveArith.Proofs.Number.Magnitude

/-!
The texts a stress run types. Every operand the generator draws is a literal the parser reads back:
a whole number from -99 to 100 in decimal, or such a number plus a hundredth fraction, a finite
double printed in positional form.
-/

set_option autoImplicit false

namespace LiveArith

namespace Random.Pcg

theorem below_lt {n : Nat} (hn : 0 < n) (tries : Nat) (p : Pcg) : (below n tries p).1 < n := by
  -- the high word of `x * n` for a 64-bit `x` is below `n`
  have hhigh : ∀ x : UInt64, x.toNat * n / Nat.pow 2 64 < n := fun x => by
    have hx := x.toNat_lt
    rw [Nat.pow_eq, Nat.div_lt_iff_lt_mul (Nat.two_pow_pos 64), Nat.mul_comm]
    exact Nat.mul_lt_mul_of_pos_left hx hn
  -- one case per branch of the draw: no bound, a power of two masked, a rejection with no tries
  -- left, a rejection drawing again, an acceptance
  fun_induction below n tries p with
  | case1 => omega
  | case2 => exact Nat.mod_lt _ hn
  | case3 => exact hhigh _
  | case4 _ _ _ _ _ _ _ _ _ ih => exact ih
  | case5 => exact hhigh _

theorem intN_lt (p : Pcg) {n : Nat} (hn : 0 < n) : (p.intN n).1 < n := below_lt hn 64 p

end Random.Pcg

namespace Stress

open LiveArith.Random Syntax Grammar

theorem literal_cases (p : Pcg) : ∃ v : Int, -99 ≤ v ∧ v ≤ 100 ∧ ((literal p).1 = toString v ∨
    ∃ h < 100, (literal p).1 = Layout.fixed (Float.ofInt v + Float.ofNat h / 100)) := by
  have hn := p.intN_lt (n := 200) (by decide)
  rw [literal]
  dsimp only
  -- the draws stay names: the kernel must never run the generator on an unknown state
  generalize p.intN 200 = n at hn ⊢
  generalize n.2.intN 3 = third
  split
  · have hh := third.2.intN_lt (n := 100) (by decide)
    generalize third.2.intN 100 = h at hh ⊢
    exact ⟨_, by omega, by omega, .inr ⟨h.1, hh, rfl⟩⟩
  · exact ⟨_, by omega, by omega, .inl rfl⟩

theorem literal_phrase (p : Pcg) : Phrase (literal p).1.toList 0 := by
  obtain ⟨v, hlo, hhi, hint | ⟨h, hh, hfix⟩⟩ := literal_cases p
  · -- the decimal text of the number, which a 64-bit integer prints alike
    have hv := phrase_int64 (Int64.ofInt v)
    rwa [Int64.text, Int64.toInt_ofInt_of_le (by omega) (by omega), ← hint] at hv
  · -- a finite double below `2^12`, so printed without an exponent
    obtain ⟨neg, m, e, hx, he⟩ :=
      Binary64.shape_of_finiteBelow (Binary64.hundredths_below (v := v) (h := h) (by omega) (by omega))
        (by decide)
    rw [hfix]
    exact phrase_fixed hx (by omega)

theorem ops_getD (o : Nat) : ∃ c, Arith c ∧ (ops.getD o "+").toList = [c] :=
  match o with
  | 0 => ⟨'+', .inl rfl, by decide⟩
  | 1 => ⟨'-', .inr (.inl rfl), by decide⟩
  | 2 => ⟨'*', .inr (.inr (.inl rfl)), by decide⟩
  | 3 => ⟨'/', .inr (.inr (.inr rfl)), by decide⟩
  | n + 4 => ⟨'+', .inl rfl, by
      rw [ops, List.getD_cons_succ, List.getD_cons_succ, List.getD_cons_succ, List.getD_cons_succ,
        List.getD_nil]
      decide⟩

def Tail (D : Nat) (cs : List Char) : Prop :=
  cs = [] ∨ ∃ c b, Arith c ∧ Phrase b D ∧ cs = ' ' :: c :: ' ' :: b

theorem phrase_append_tail {a r : List Char} {D : Nat} (ha : Phrase a D) (hr : Tail D r) :
    Phrase (a ++ r) D := by
  rcases hr with rfl | ⟨c, b, hc, hb, rfl⟩
  · rwa [List.append_nil]
  · exact ha.binary hb hc

section join

variable {D : Nat} {operand : Pcg → String × Pcg} (hop : ∀ p, Phrase (operand p).1.toList D)
include hop

theorem joinOperands_tail (k : Nat) (p : Pcg) : Tail D (joinOperands operand k false p).1.toList := by
  induction k generalizing p with
  | zero => exact .inl (by rw [joinOperands]; rfl)
  | succ k ih =>
    rw [joinOperands, if_neg (by decide)]
    dsimp only
    obtain ⟨c, hc, hcs⟩ := ops_getD (p.intN ops.length).1
    refine .inr ⟨c, _, hc, phrase_append_tail (hop (p.intN ops.length).2)
      (ih (operand (p.intN ops.length).2).2), ?_⟩
    simp only [String.toList_append, hcs, List.append_assoc]
    rfl

theorem joinOperands_phrase (k : Nat) (p : Pcg) :
    Phrase (joinOperands operand (k + 1) true p).1.toList D := by
  rw [joinOperands, if_pos rfl]
  dsimp only
  simpa only [String.toList_append, String.toList_empty, List.nil_append] using
    phrase_append_tail (hop p) (joinOperands_tail hop k _)

end join

theorem paren_phrase {inner : String} {D : Nat} (h : Phrase inner.toList D) :
    Phrase ("(" ++ inner ++ ")").toList (D + 1) := by
  have hopen : "(".toList = ['('] := rfl
  have hclose : ")".toList = [')'] := rfl
  rw [String.toList_append, String.toList_append, hopen, hclose]
  simpa only [List.cons_append, List.nil_append] using h.paren

def nestedDrawn (inner : Pcg → String × Pcg) (q : Nat × Pcg) : String × Pcg :=
  if q.1 == 0 then
    let e := inner q.2
    ("(" ++ e.1 ++ ")", e.2)
  else literal q.2

-- Proofs go through this form so that the draw stays a name: compared under a projection,
-- the kernel would otherwise run the generator on an unknown state.
theorem nested_eq_drawn (inner : Pcg → String × Pcg) (p : Pcg) :
    nested inner p = nestedDrawn inner (p.intN 4) := rfl

theorem nestedDrawn_phrase {D : Nat} {inner : Pcg → String × Pcg}
    (hin : ∀ p, Phrase (inner p).1.toList D) (q : Nat × Pcg) :
    Phrase (nestedDrawn inner q).1.toList (D + 1) := by
  unfold nestedDrawn
  split
  · exact paren_phrase (hin _)
  · exact (literal_phrase _).mono (Nat.zero_le _)

theorem nested_phrase {D : Nat} {inner : Pcg → String × Pcg}
    (hin : ∀ p, Phrase (inner p).1.toList D) (p : Pcg) :
    Phrase (nested inner p).1.toList (D + 1) := by
  rw [nested_eq_drawn]
  exact nestedDrawn_phrase hin _

theorem expression_phrase (terms depth : Nat) (p : Pcg) :
    Phrase (expression terms depth p).1.toList depth := by
  induction depth generalizing p with
  | zero =>
    rw [expression]
    exact joinOperands_phrase literal_phrase _ _
  | succ d ih =>
    rw [expression]
    exact joinOperands_phrase (nested_phrase ih) _ _

theorem expression_parses (terms depth : Nat) (p : Pcg) (limits : Limits)
    (hsize : (expression terms depth p).1.toUTF8.size ≤ limits.maxInput)
    (hdepth : depth ≤ limits.maxDepth) :
    ∃ T root x, parse limits (expression terms depth p).1.toUTF8 none = .ok T ∧
      T.root = some root ∧ root.clean = true ∧ root.parens ≤ depth ∧
      Build.tree T.root (expression terms depth p).1.toUTF8 = .ok x := by
  obtain ⟨t, x, hd, hp, hroot, hb⟩ := (expression_phrase terms depth p).parses limits hsize hdepth
  refine ⟨_, _, x, hp, hroot, by simp, ?_, hb⟩
  -- the source node adds no parentheses; the term's node counts its own nesting
  have hnest : (t.node (expression terms depth p).1.toUTF8).parens = t.depth := by
    rw [← ((Term.node_stamped _ t).all.self (by simp) (by simp)).nest_eq, Term.node_nest]
  have hsource : (Kind.source == Kind.parenthesized) = false := rfl
  rw [Node.parens_push, Node.leaf_kind, Node.leaf_children, hsource, hnest]
  simpa [Node.parensOf] using hd

end Stress

end LiveArith
