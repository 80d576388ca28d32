import LiveArith.Proofs.Syntax.Grammar

/-!
The scanner against the grammar's runs and literals. `skipBlank` and `digitsEnd` are one loop over
two byte classes: each lands on the end of the run it starts, and on no other offset, which is what
makes a derivation's blanks and digits the parser's.
-/

set_option autoImplicit false

namespace LiveArith.Syntax

open Grammar

namespace Grammar

variable {src : ByteArray}

theorem lt_size_of_byteAt {i : Nat} {c : UInt8} (h : Utf8.byteAt src i = c) (hc : c ≠ 0) :
    i < src.size := by
  unfold Utf8.byteAt at h
  split at h
  · assumption
  · exact absurd h.symm hc

theorem Run.refl {P : UInt8 → Bool} {i : Nat} (h : i ≤ src.size) : Run P src i i :=
  ⟨Nat.le_refl i, h, fun _ h1 h2 => absurd h2 (Nat.not_lt.2 h1)⟩

theorem Run.le_size {P : UInt8 → Bool} {i j : Nat} (h : Run P src i j) : j ≤ src.size := h.2.1

theorem Run.cons {P : UInt8 → Bool} {i j : Nat} (hi : P (Utf8.byteAt src i) = true)
    (h : Run P src (i + 1) j) : Run P src i j := by
  refine ⟨by have := h.1; omega, h.2.1, fun k h1 h2 => ?_⟩
  rcases Nat.eq_or_lt_of_le h1 with rfl | hlt
  · exact hi
  · exact h.2.2 k hlt h2

theorem Run.tail {P : UInt8 → Bool} {i j : Nat} (h : Run P src i j) (hij : i < j) :
    Run P src (i + 1) j :=
  ⟨hij, h.2.1, fun k h1 h2 => h.2.2 k (by omega) h2⟩

theorem Run.head {P : UInt8 → Bool} {i j : Nat} (h : Run P src i j) (hij : i < j) :
    P (Utf8.byteAt src i) = true :=
  h.2.2 i (Nat.le_refl i) hij

theorem run_of_loop {P : UInt8 → Bool} (hP : P 0 = false) {f : Nat → Nat}
    (hf : ∀ p, f p = if p < src.size then if P (Utf8.byteAt src p) then f (p + 1) else p else p)
    (p : Nat) (hp : p ≤ src.size) : Run P src p (f p) ∧ P (Utf8.byteAt src (f p)) = false := by
  induction hn : src.size - p generalizing p with
  | zero =>
    have hend : p = src.size := by omega
    rw [hf p, if_neg (by omega)]
    refine ⟨Run.refl hp, ?_⟩
    simp [Utf8.byteAt, hend, hP]
  | succ n ih =>
    have hlt : p < src.size := by omega
    rw [hf p, if_pos hlt]
    by_cases hc : P (Utf8.byteAt src p)
    · rw [if_pos hc]
      obtain ⟨hrun, hstop⟩ := ih (p + 1) (by omega) (by omega)
      exact ⟨Run.cons hc hrun, hstop⟩
    · rw [if_neg hc]
      exact ⟨Run.refl hp, by simpa using hc⟩

theorem loop_eq_of_run {P : UInt8 → Bool} {f : Nat → Nat}
    (hf : ∀ p, f p = if p < src.size then if P (Utf8.byteAt src p) then f (p + 1) else p else p)
    {p q : Nat} (h : Run P src p q) (hq : P (Utf8.byteAt src q) = false) : f p = q := by
  induction hn : q - p generalizing p with
  | zero =>
    have hpq : p = q := by have := h.1; omega
    subst hpq
    rw [hf p]
    split
    · rw [if_neg (by simp [hq])]
    · rfl
  | succ n ih =>
    have hlt : p < q := by omega
    rw [hf p, if_pos (by have := h.2.1; omega), if_pos (h.head hlt)]
    exact ih (h.tail hlt) (by omega)

def LitEnd (src : ByteArray) (j : Nat) : Prop :=
  Parser.isDigit (Utf8.byteAt src j) = false ∧ Utf8.byteAt src j ≠ 46

theorem litEnd_of_blank {j : Nat} (h : Node.blank (Utf8.byteAt src j) = true) : LitEnd src j := by
  unfold LitEnd
  generalize Utf8.byteAt src j = c at h ⊢
  simp only [Node.blank, Bool.or_eq_true, beq_iff_eq] at h
  rcases h with ((((rfl | rfl) | rfl) | rfl) | rfl) | rfl <;> decide

theorem power_pos_iff (c : UInt8) :
    0 < power c ↔ c = 43 ∨ c = 45 ∨ c = 42 ∨ c = 47 ∨ c = 37 ∨ c = 94 := by
  unfold power
  by_cases h1 : c = 43 <;> by_cases h2 : c = 45 <;> by_cases h3 : c = 42 <;>
    by_cases h4 : c = 47 <;> by_cases h5 : c = 37 <;> by_cases h6 : c = 94 <;> simp [*]

theorem litEnd_of_power {j : Nat} (h : 0 < power (Utf8.byteAt src j)) : LitEnd src j := by
  unfold LitEnd
  generalize Utf8.byteAt src j = c at h ⊢
  rcases (power_pos_iff c).1 h with rfl | rfl | rfl | rfl | rfl | rfl <;> decide

theorem litEnd_of_run {j q : Nat} (h : Run Node.blank src j q) (hq : LitEnd src q) :
    LitEnd src j := by
  rcases Nat.eq_or_lt_of_le h.1 with rfl | hlt
  · exact hq
  · exact litEnd_of_blank (h.head hlt)

theorem byteAt_ne_minus_of_digit {a : Nat} (h : Parser.isDigit (Utf8.byteAt src a) = true) :
    Utf8.byteAt src a ≠ 45 := by
  intro h45
  rw [h45] at h
  exact absurd h (by decide)

def signEnd (src : ByteArray) (i : Nat) : Nat := if Utf8.byteAt src i = 45 then i + 1 else i

theorem sign_signEnd (i : Nat) : Sign src i (signEnd src i) := by
  unfold signEnd
  split
  · next h => exact .inr ⟨rfl, h⟩
  · exact .inl rfl

theorem signEnd_le {i : Nat} (hi : i ≤ src.size) : signEnd src i ≤ src.size := by
  unfold signEnd
  split
  · next h => exact lt_size_of_byteAt h (by decide)
  · exact hi

theorem signEnd_eq {i a : Nat} (hs : Sign src i a) (ha : Utf8.byteAt src a ≠ 45) :
    signEnd src i = a := by
  unfold signEnd
  rcases hs with rfl | ⟨rfl, hminus⟩
  · simp [ha]
  · simp [hminus]

end Grammar

namespace Parser

variable (I : Input)

theorem skipBlank_eq (p : Nat) :
    skipBlank I p =
      if p < I.src.size then if Node.blank (Utf8.byteAt I.src p) then skipBlank I (p + 1) else p
      else p := by
  rw [skipBlank]
  rfl

theorem digitsEnd_eq (p : Nat) :
    digitsEnd I p =
      if p < I.src.size then if isDigit (Utf8.byteAt I.src p) then digitsEnd I (p + 1) else p
      else p := by
  rw [digitsEnd]
  rfl

theorem run_skipBlank {p : Nat} (hp : p ≤ I.src.size) :
    Run Node.blank I.src p (skipBlank I p) ∧ Node.blank (peek I (skipBlank I p)) = false :=
  run_of_loop rfl (skipBlank_eq I) p hp

theorem run_digitsEnd {p : Nat} (hp : p ≤ I.src.size) :
    Run isDigit I.src p (digitsEnd I p) ∧ isDigit (peek I (digitsEnd I p)) = false :=
  run_of_loop rfl (digitsEnd_eq I) p hp

theorem skipBlank_of_run {p q : Nat} (h : Run Node.blank I.src p q)
    (hq : Node.blank (Utf8.byteAt I.src q) = false) : skipBlank I p = q :=
  loop_eq_of_run (skipBlank_eq I) h hq

theorem digitsEnd_of_run {p q : Nat} (h : Run isDigit I.src p q)
    (hq : isDigit (Utf8.byteAt I.src q) = false) : digitsEnd I p = q :=
  loop_eq_of_run (digitsEnd_eq I) h hq

theorem scanNumber_eq (i : Nat) :
    scanNumber I i =
      if digitsEnd I (signEnd I.src i) + 1 < I.src.size &&
          peek I (digitsEnd I (signEnd I.src i)) == 46 &&
          isDigit (peek I (digitsEnd I (signEnd I.src i) + 1)) then
        (.float, digitsEnd I (digitsEnd I (signEnd I.src i) + 1))
      else if digitsEnd I (signEnd I.src i) > signEnd I.src i then
        (.number, digitsEnd I (signEnd I.src i))
      else (.number, i) := by
  by_cases h45 : Utf8.byteAt I.src i = 45
  · have hi := lt_size_of_byteAt h45 (by decide)
    simp [scanNumber, signEnd, peek, h45, hi]
  · simp [scanNumber, signEnd, peek, h45]

theorem scanNumber_of_literal {fl : Bool} {i j : Nat} (h : Literal I.src fl i j)
    (hend : LitEnd I.src j) : scanNumber I i = (literalKind fl, j) := by
  rw [scanNumber_eq]
  cases h with
  | whole hs hd hlt =>
    rename_i a
    have hsign := signEnd_eq hs (byteAt_ne_minus_of_digit (hd.head hlt))
    have hint : digitsEnd I a = j := digitsEnd_of_run I hd hend.1
    rw [hsign, hint, if_neg (by simp [peek, hend.2]), if_pos (hint ▸ hlt)]
    rfl
  | fraction hs hd hdot hd2 hlt =>
    rename_i a b
    have ha : Utf8.byteAt I.src a ≠ 45 := by
      rcases Nat.eq_or_lt_of_le hd.1 with rfl | hab
      · rw [hdot]; decide
      · exact byteAt_ne_minus_of_digit (hd.head hab)
    have hint : digitsEnd I a = b := digitsEnd_of_run I hd (by rw [hdot]; decide)
    have hfrac : digitsEnd I (b + 1) = j := digitsEnd_of_run I hd2 hend.1
    have hsize : b + 1 < I.src.size := Nat.lt_of_lt_of_le hlt hd2.le_size
    rw [signEnd_eq hs ha, hint, if_pos (by simp [peek, hsize, hdot, hd2.head hlt]), hfrac]
    rfl

theorem literal_of_scanNumber {i j : Nat} {k : Kind} (hi : i ≤ I.src.size)
    (h : scanNumber I i = (k, j)) (hij : i < j) :
    ∃ fl, k = literalKind fl ∧ Literal I.src fl i j := by
  rw [scanNumber_eq] at h
  have hsign : Sign I.src i (signEnd I.src i) := sign_signEnd i
  obtain ⟨hrun, _⟩ := run_digitsEnd I (signEnd_le hi)
  generalize signEnd I.src i = a at h hsign hrun
  split at h
  · next hf =>
    simp only [Bool.and_eq_true, decide_eq_true_eq, beq_iff_eq, peek] at hf
    obtain ⟨⟨hsize, hdot⟩, hdig⟩ := hf
    obtain ⟨hrun2, _⟩ := run_digitsEnd I (p := digitsEnd I a + 1) (by omega)
    simp only [Prod.mk.injEq] at h
    obtain ⟨rfl, rfl⟩ := h
    have hlt : digitsEnd I a + 1 < digitsEnd I (digitsEnd I a + 1) := by
      rw [digitsEnd_eq I (digitsEnd I a + 1), if_pos hsize, if_pos hdig]
      exact Nat.lt_of_lt_of_le (Nat.lt_succ_self _) (run_digitsEnd I (by omega)).1.1
    exact ⟨true, rfl, .fraction hsign hrun hdot hrun2 hlt⟩
  · split at h
    · next hgt =>
      simp only [Prod.mk.injEq] at h
      obtain ⟨rfl, rfl⟩ := h
      exact ⟨false, rfl, .whole hsign hrun hgt⟩
    · simp only [Prod.mk.injEq] at h
      omega

theorem precedence_eq (c : UInt8) : precedence c = (power c, rightAssoc c) := by
  unfold precedence power rightAssoc
  by_cases h1 : (c == 43 || c == 45) = true
  · simp only [h1, if_true]
    have : c ≠ 94 := by
      simp only [Bool.or_eq_true, beq_iff_eq] at h1
      rcases h1 with rfl | rfl <;> decide
    simp [this]
  · by_cases h2 : (c == 42 || c == 47 || c == 37) = true
    · simp only [h1, h2, if_true, if_false, Bool.false_eq_true]
      have : c ≠ 94 := by
        simp only [Bool.or_eq_true, beq_iff_eq] at h2
        rcases h2 with (rfl | rfl) | rfl <;> decide
      simp [this]
    · simp only [h1, h2, if_false, Bool.false_eq_true]
      by_cases h3 : c = 94 <;> simp [h3]

end Parser

end LiveArith.Syntax
