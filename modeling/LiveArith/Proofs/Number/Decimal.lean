import LiveArith.Number.IntSyntax

/-!
Reading decimal integers. An optional minus sign followed by decimal digits reads as the number the
digits write, negated after a sign, exactly when that number fits in 64 bits; otherwise the reading
fails with an out-of-range fault quoting the text.
-/

set_option autoImplicit false

namespace LiveArith.IntSyntax

def decimalFrom (n : Nat) (ds : List Char) : Nat := ds.foldl (fun n c => n * 10 + (c.toNat - 48)) n

def decimal (ds : List Char) : Nat := decimalFrom 0 ds

theorem toNat_of_isDigit {c : Char} (h : c.isDigit = true) : 48 ≤ c.toNat ∧ c.toNat ≤ 57 := by
  simp only [Char.isDigit, Bool.and_eq_true, decide_eq_true_eq, UInt32.le_iff_toNat_le] at h
  exact h

theorem digitValue_of_isDigit {c : Char} (h : c.isDigit = true) :
    digitValue c = some (c.toNat - 48) := by
  simp only [Char.isDigit, Bool.and_eq_true, decide_eq_true_eq] at h
  have h09 : ('0' ≤ c && c ≤ '9') = true := by
    simp only [Bool.and_eq_true, decide_eq_true_eq]
    exact ⟨h.1, h.2⟩
  simp [digitValue, h09]

theorem le_decimalFrom (n : Nat) (ds : List Char) : n ≤ decimalFrom n ds := by
  induction ds generalizing n with
  | nil => exact Nat.le_refl n
  | cons c ds ih =>
    have := ih (n * 10 + (c.toNat - 48))
    simp only [decimalFrom, List.foldl_cons] at this ⊢
    omega

theorem digitsValue_from {max : Nat} {ds : List Char} (hd : ∀ c ∈ ds, c.isDigit = true) :
    ∀ n, n ≤ max →
      ds.foldlM (fun n c =>
        if (false && c == '_') = true then Except.ok n
        else match digitValue c with
          | some d =>
            if d ≥ 10 then .error NumberFault.Reason.malformed
            else
              let n' := n * 10 + d
              if n' > max then .error .range else .ok n'
          | none => .error .malformed) n =
        if decimalFrom n ds ≤ max then .ok (decimalFrom n ds) else .error .range := by
  -- the value read so far only grows, so the bound is passed at some digit exactly when the
  -- whole value passes it
  induction ds with
  | nil =>
    intro n hn
    simp only [decimalFrom, List.foldl_nil, hn, if_true, List.foldlM_nil]
    rfl
  | cons c ds ih =>
    intro n hn
    have hc := hd c (List.mem_cons_self ..)
    have hlt : c.toNat - 48 < 10 := by
      have := toNat_of_isDigit hc
      omega
    rw [List.foldlM_cons]
    simp only [Bool.false_and, Bool.false_eq_true, if_false, digitValue_of_isDigit hc,
      show ¬(c.toNat - 48 ≥ 10) from by omega]
    by_cases hover : n * 10 + (c.toNat - 48) > max
    · -- past the bound at this digit, so past it at the end
      have := le_decimalFrom (n * 10 + (c.toNat - 48)) ds
      simp only [decimalFrom, List.foldl_cons] at this ⊢
      simp [hover, show ¬(List.foldl (fun n c => n * 10 + (c.toNat - 48))
        (n * 10 + (c.toNat - 48)) ds ≤ max) by omega]
      rfl
    · simp only [hover, if_false]
      exact ih (fun c hc => hd c (List.mem_cons_of_mem _ hc)) _ (by omega)

theorem digitsValue_decimal {ds : List Char} (hd : ∀ c ∈ ds, c.isDigit = true) (max : Nat) :
    digitsValue ds 10 false max = if decimal ds ≤ max then .ok (decimal ds) else .error .range :=
  digitsValue_from hd 0 (Nat.zero_le _)

theorem readUnsigned_decimal (reader : String) {ds : List Char}
    (hd : ∀ c ∈ ds, c.isDigit = true) (hne : ds ≠ []) :
    readUnsigned reader (String.ofList ds) 10 64 =
      if decimal ds ≤ 18446744073709551615 then .ok (decimal ds)
      else .error ⟨reader, String.ofList ds, .range⟩ := by
  unfold readUnsigned
  simp only [String.toList_ofList, List.isEmpty_iff, hne, if_false]
  rw [show ((10 : Nat) == 0) = false from rfl]
  simp only [Bool.false_eq_true, if_false, digitsValue_decimal hd, Bool.false_and,
    Nat.pow_eq, Nat.reducePow, Nat.reduceSub]
  by_cases hle : decimal ds ≤ 18446744073709551615 <;> simp only [hle, if_true, if_false]

theorem readInt64_decimal (neg : Bool) {ds : List Char} (hd : ∀ c ∈ ds, c.isDigit = true)
    (hne : ds ≠ []) :
    readInt64 (String.ofList ((if neg then ['-'] else []) ++ ds)) =
      let v : Int := if neg then -(decimal ds : Int) else decimal ds
      if Int64.minValue.toInt ≤ v ∧ v ≤ Int64.maxValue.toInt then .ok (Int64.ofInt v)
      else .error ⟨"ParseInt", String.ofList ((if neg then ['-'] else []) ++ ds), .range⟩ := by
  obtain ⟨c, rest, rfl⟩ := List.exists_cons_of_ne_nil hne
  have hc : c ≠ '+' ∧ c ≠ '-' := by
    have := toNat_of_isDigit (hd c (List.mem_cons_self ..))
    constructor <;> (intro h; subst h; simp at this)
  have hmin : Int64.minValue.toInt = -9223372036854775808 := rfl
  have hmax' : Int64.maxValue.toInt = 9223372036854775807 := rfl
  unfold readInt64 readSigned
  simp only [Nat.pow_eq, Nat.reduceSub, Nat.reducePow]
  rw [hmin, hmax']
  -- the sign is read off first; the digits then read unsigned against the 64-bit bound
  cases neg with
  | false =>
    simp only [String.toList_ofList, Bool.false_eq_true, if_false, List.nil_append,
      List.isEmpty_cons, List.cons.injEq, hc.1, hc.2, false_and, imp_false, forall_const,
      not_false_eq_true]
    rw [readUnsigned_decimal "ParseInt" hd (List.cons_ne_nil _ _)]
    by_cases hle : decimal (c :: rest) ≤ 18446744073709551615
    · rw [if_pos hle]
      simp only [Bool.not_false, Bool.true_and, Bool.false_and, decide_eq_true_eq,
        Bool.false_eq_true, if_false]
      by_cases hlt : decimal (c :: rest) < 9223372036854775808
      · rw [if_neg (by omega), if_pos (by omega)]
        rfl
      · rw [if_pos (by omega), if_neg (by omega)]
        rfl
    · rw [if_neg hle, if_neg (by omega)]
      rfl
  | true =>
    simp only [String.toList_ofList, if_true, List.singleton_append, List.isEmpty_cons]
    rw [readUnsigned_decimal "ParseInt" hd (List.cons_ne_nil _ _)]
    by_cases hle : decimal (c :: rest) ≤ 18446744073709551615
    · rw [if_pos hle]
      simp only [Bool.not_true, Bool.true_and, Bool.false_and, decide_eq_true_eq,
        Bool.false_eq_true, if_false]
      by_cases hlt : decimal (c :: rest) ≤ 9223372036854775808
      · rw [if_neg (by omega), if_pos (by omega)]
        rfl
      · rw [if_pos (by omega), if_neg (by omega)]
        rfl
    · have hout : ¬(-9223372036854775808 ≤ -(decimal (c :: rest) : Int) ∧
          -(decimal (c :: rest) : Int) ≤ 9223372036854775807) := by omega
      rw [if_neg hle, if_neg hout]
      rfl

end LiveArith.IntSyntax
