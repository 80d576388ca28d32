import Mathlib
import LiveArith.Number.Binary64

/-!
Rounding a ratio to a double, exactly. `roundRatio` first guesses the exponent from the bit lengths
of numerator and denominator, corrects the guess once, and rounds the quotient at that exponent to
nearest with ties to even.
-/

set_option autoImplicit false

namespace LiveArith.Binary64

theorem zpow_mul_pow_neg {x : ℚ} (hx : x ≠ 0) (p : ℤ) :
    x ^ p * x ^ (max (-p) 0).toNat = x ^ (max p 0).toNat := by
  rcases le_or_gt 0 p with h | h
  · obtain ⟨n, rfl⟩ := Int.eq_ofNat_of_zero_le h
    simp
  · obtain ⟨n, hn⟩ : ∃ n : ℕ, p = -(n : ℤ) := ⟨(-p).toNat, by omega⟩
    subst hn
    have h1 : (max (-(-(n:ℤ))) 0).toNat = n := by omega
    have h2 : (max (-(n:ℤ)) 0).toNat = 0 := by omega
    rw [h1, h2, zpow_neg, zpow_natCast, inv_mul_cancel₀ (pow_ne_zero _ hx), pow_zero]

def quot (num den : ℕ) (e : ℤ) : ℕ × ℕ × ℕ :=
  let n := num * Nat.pow 2 (max (-e) 0).toNat
  let d := den * Nat.pow 2 (max e 0).toNat
  (n / d, n % d, d)

section quot

variable {num den : ℕ} (hden : 0 < den) (e : ℤ)
include hden

theorem quot_ratio :
    ((num * Nat.pow 2 (max (-e) 0).toNat : ℕ) : ℚ) / ((den * Nat.pow 2 (max e 0).toNat : ℕ) : ℚ) =
      (num : ℚ) / den / 2 ^ e := by
  have h2 : (2 : ℚ) ^ (max (-e) 0).toNat = 2 ^ (-e) * 2 ^ (max e 0).toNat := by
    rw [← zpow_mul_pow_neg (by norm_num) (-e), neg_neg]
  have hd : (0 : ℚ) < den := by exact_mod_cast hden
  simp only [Nat.pow_eq]
  push_cast
  rw [h2, zpow_neg]
  field_simp

theorem quot_fst : (quot num den e).1 = ⌊(num : ℚ) / den / 2 ^ e⌋₊ := by
  rw [← quot_ratio hden e, Nat.floor_div_eq_div]
  rfl

theorem quot_pos : 0 < (quot num den e).2.2 := by
  simp only [quot, Nat.pow_eq]
  positivity

theorem quot_add_frac :
    ((quot num den e).1 : ℚ) + (quot num den e).2.1 / (quot num den e).2.2 = (num : ℚ) / den / 2 ^ e := by
  have hd : (0 : ℚ) < (quot num den e).2.2 := by exact_mod_cast quot_pos hden e
  rw [add_div' _ _ _ hd.ne', ← Nat.cast_mul, ← Nat.cast_add, mul_comm, ← quot_ratio hden e]
  simp only [quot, Nat.div_add_mod]

end quot

def normalize (num den : ℕ) : ℤ :=
  let l : Int := (Nat.log2 num : Int) - (Nat.log2 den : Int)
  let e0 : Int := max (l - 52) minExp
  let q0 := (quot num den e0).1
  let e := if q0 ≥ Nat.pow 2 53 then e0 + 1
    else if q0 < Nat.pow 2 52 && e0 > minExp then max (e0 - 1) minExp else e0
  if (quot num den e).1 ≥ Nat.pow 2 53 then e + 1 else e

def roundAt (num den : ℕ) (sticky : Bool) (e : ℤ) : ℕ × ℤ :=
  let x := quot num den e
  let up := 2 * x.2.1 > x.2.2 || (2 * x.2.1 == x.2.2 && (sticky || x.1 % 2 == 1))
  let q := if up then x.1 + 1 else x.1
  if q == Nat.pow 2 53 then (Nat.pow 2 52, e + 1) else (q, e)

theorem roundRatio_eq (num den : ℕ) (sticky : Bool) : roundRatio num den sticky =
    let r := roundAt num den sticky (normalize num den)
    let bits := ((r.2 - minExp).toNat) * Nat.pow 2 52 + r.1
    if bits ≥ 2047 * Nat.pow 2 52 then none else some bits := by
  rfl

def Normal (num den : ℕ) (e : ℤ) : Prop :=
  minExp ≤ e ∧ (quot num den e).1 < 2 ^ 53 ∧ (e = minExp ∨ 2 ^ 52 ≤ (quot num den e).1)

section normal

variable {num den : ℕ} (hnum : 0 < num) (hden : 0 < den)
include hnum hden

theorem ratio_bounds :
    (2 : ℚ) ^ ((Nat.log2 num : ℤ) - Nat.log2 den - 1) < num / den ∧
      (num : ℚ) / den < 2 ^ ((Nat.log2 num : ℤ) - Nat.log2 den + 1) := by
  have ha : (2 : ℚ) ^ (Nat.log2 num) ≤ num := by exact_mod_cast Nat.log2_self_le hnum.ne'
  have ha' : (num : ℚ) < 2 ^ (Nat.log2 num + 1) := by exact_mod_cast Nat.lt_log2_self
  have hb : (2 : ℚ) ^ (Nat.log2 den) ≤ den := by exact_mod_cast Nat.log2_self_le hden.ne'
  have hb' : (den : ℚ) < 2 ^ (Nat.log2 den + 1) := by exact_mod_cast Nat.lt_log2_self
  have hd : (0 : ℚ) < den := by exact_mod_cast hden
  constructor
  · rw [lt_div_iff₀ hd]
    calc (2 : ℚ) ^ ((Nat.log2 num : ℤ) - Nat.log2 den - 1) * den
        < 2 ^ ((Nat.log2 num : ℤ) - Nat.log2 den - 1) * 2 ^ (Nat.log2 den + 1) :=
          mul_lt_mul_of_pos_left hb' (by positivity)
      _ = 2 ^ Nat.log2 num := by
          rw [← zpow_natCast, ← zpow_natCast, ← zpow_add₀ two_ne_zero]
          congr 1
          push_cast
          ring
      _ ≤ num := ha
  · rw [div_lt_iff₀ hd]
    calc (num : ℚ) < 2 ^ (Nat.log2 num + 1) := ha'
      _ = 2 ^ ((Nat.log2 num : ℤ) - Nat.log2 den + 1) * 2 ^ Nat.log2 den := by
          rw [← zpow_natCast, ← zpow_natCast, ← zpow_add₀ two_ne_zero]
          congr 1
          push_cast
          ring
      _ ≤ 2 ^ ((Nat.log2 num : ℤ) - Nat.log2 den + 1) * den :=
          mul_le_mul_of_nonneg_left hb (by positivity)

theorem quot_lt_iff (e : ℤ) (k : ℕ) : (quot num den e).1 < k ↔ (num : ℚ) / den / 2 ^ e < k := by
  rw [quot_fst hden, Nat.floor_lt (by positivity)]

theorem le_quot_iff (e : ℤ) (k : ℕ) : k ≤ (quot num den e).1 ↔ (k : ℚ) ≤ num / den / 2 ^ e := by
  rw [quot_fst hden, Nat.le_floor_iff (by positivity)]

theorem normalize_normal : Normal num den (normalize num den) := by
  obtain ⟨hlo, hhi⟩ := ratio_bounds hnum hden
  -- from any exponent at or above `l - 52` the quotient has at most 53 bits
  have hsmall : ∀ e, (Nat.log2 num : ℤ) - Nat.log2 den - 52 ≤ e → (quot num den e).1 < 2 ^ 53 := by
    intro e he
    rw [quot_lt_iff hnum hden]
    push_cast
    calc (num : ℚ) / den / 2 ^ e
        ≤ num / den / 2 ^ ((Nat.log2 num : ℤ) - Nat.log2 den - 52) :=
          div_le_div_of_nonneg_left (by positivity) (by positivity)
            (zpow_le_zpow_right₀ one_le_two he)
      _ < 2 ^ ((Nat.log2 num : ℤ) - Nat.log2 den + 1) /
          2 ^ ((Nat.log2 num : ℤ) - Nat.log2 den - 52) := div_lt_div_of_pos_right hhi (by positivity)
      _ = 2 ^ 53 := by
          rw [← zpow_sub₀ two_ne_zero]
          norm_num
  -- at `l - 52` itself the quotient has more than 51 bits
  have hbig : (2 : ℚ) ^ 51 < num / den / 2 ^ ((Nat.log2 num : ℤ) - Nat.log2 den - 52) := by
    rw [lt_div_iff₀ (by positivity)]
    calc (2 : ℚ) ^ 51 * 2 ^ ((Nat.log2 num : ℤ) - Nat.log2 den - 52)
        = 2 ^ ((Nat.log2 num : ℤ) - Nat.log2 den - 1) := by
          rw [← zpow_natCast, ← zpow_add₀ two_ne_zero]
          congr 1
          ring
      _ < num / den := hlo
  unfold normalize
  simp only [Nat.pow_eq, Bool.and_eq_true, decide_eq_true_eq]
  generalize (Nat.log2 num : ℤ) - Nat.log2 den = l at hsmall hbig ⊢
  have h0 := hsmall (max (l - 52) minExp) (le_max_left _ _)
  rw [if_neg (Nat.not_le.2 h0)]
  by_cases hc : (quot num den (max (l - 52) minExp)).1 < 2 ^ 52 ∧ max (l - 52) minExp > minExp
  · -- one bit short at `l - 52`: one exponent lower the quotient has 53 bits
    have he0 : max (l - 52) minExp = l - 52 := by omega
    rw [if_pos hc, he0, show max (l - 52 - 1) minExp = l - 52 - 1 by omega]
    rw [he0] at hc
    have hq : (quot num den (l - 52)).1 < 2 ^ 52 := hc.1
    rw [quot_lt_iff hnum hden] at hq
    have htwice : (num : ℚ) / den / 2 ^ (l - 52 - 1) = 2 * (num / den / 2 ^ (l - 52)) := by
      rw [zpow_sub₀ two_ne_zero, zpow_one]
      field_simp
    have h53 : (quot num den (l - 52 - 1)).1 < 2 ^ 53 := by
      rw [quot_lt_iff hnum hden, htwice]
      push_cast at hq ⊢
      linarith
    have h52 : 2 ^ 52 ≤ (quot num den (l - 52 - 1)).1 := by
      rw [le_quot_iff hnum hden, htwice]
      push_cast
      linarith
    rw [if_neg (Nat.not_le.2 h53)]
    exact ⟨by omega, h53, .inr h52⟩
  · rw [if_neg hc, if_neg (Nat.not_le.2 h0)]
    refine ⟨le_max_right _ _, h0, ?_⟩
    by_cases hm : max (l - 52) minExp = minExp
    · exact .inl hm
    · exact .inr (by omega)

end normal

theorem Normal.unique {num den : ℕ} (hnum : 0 < num) (hden : 0 < den) {e₁ e₂ : ℤ}
    (h1 : Normal num den e₁) (h2 : Normal num den e₂) : e₁ = e₂ := by
  by_contra hne
  wlog hlt : e₁ < e₂ generalizing e₁ e₂
  · exact this h2 h1 (Ne.symm hne) (by omega)
  -- one exponent up the quotient loses a bit, so the higher exponent has fewer than 53 bits
  have hq : (quot num den e₂).1 < 2 ^ 52 := by
    have h1' := (quot_lt_iff hnum hden e₁ _).1 h1.2.1
    rw [quot_lt_iff hnum hden]
    push_cast at h1' ⊢
    calc (num : ℚ) / den / 2 ^ e₂ ≤ num / den / 2 ^ (e₁ + 1) :=
          div_le_div_of_nonneg_left (by positivity) (by positivity)
            (zpow_le_zpow_right₀ one_le_two (by omega))
      _ = num / den / 2 ^ e₁ / 2 := by rw [zpow_add_one₀ two_ne_zero]; ring
      _ < 2 ^ 53 / 2 := by linarith
      _ = 2 ^ 52 := by norm_num
  rcases h2.2.2 with h | h
  · have := h1.1
    omega
  · omega

section round

variable {num den : ℕ} (hden : 0 < den) (e : ℤ)
include hden

theorem rem_div : ((quot num den e).2.1 : ℚ) / (quot num den e).2.2 =
    (num : ℚ) / den / 2 ^ e - (quot num den e).1 := by
  rw [← quot_add_frac hden e]
  ring

theorem roundAt_down
    (hf : (num : ℚ) / den / 2 ^ e - (quot num den e).1 < 1 / 2 ∨
      ((num : ℚ) / den / 2 ^ e - (quot num den e).1 = 1 / 2 ∧ (quot num den e).1 % 2 = 0))
    (hq : (quot num den e).1 ≠ 2 ^ 53) :
    roundAt num den false e = ((quot num den e).1, e) := by
  have hd : (0 : ℚ) < (quot num den e).2.2 := by exact_mod_cast quot_pos hden e
  rw [← rem_div hden e] at hf
  have hup : (2 * (quot num den e).2.1 > (quot num den e).2.2 ||
      (2 * (quot num den e).2.1 == (quot num den e).2.2 && (false || (quot num den e).1 % 2 == 1))) =
      false := by
    rcases hf with hf | ⟨hf, hev⟩
    · rw [div_lt_iff₀ hd] at hf
      have h2' : (2 : ℚ) * ((quot num den e).2.1 : ℚ) < (quot num den e).2.2 := by linarith
      have h2 : 2 * (quot num den e).2.1 < (quot num den e).2.2 := by exact_mod_cast h2'
      simp only [Bool.or_eq_false_iff, decide_eq_false_iff_not, Bool.and_eq_false_imp, beq_iff_eq,
        Bool.false_or]
      omega
    · rw [div_eq_iff hd.ne'] at hf
      have h2' : (2 : ℚ) * ((quot num den e).2.1 : ℚ) = (quot num den e).2.2 := by linarith
      have h2 : 2 * (quot num den e).2.1 = (quot num den e).2.2 := by exact_mod_cast h2'
      simp [h2, hev]
  unfold roundAt
  simp only [hup, Bool.false_eq_true, if_false, Nat.pow_eq, beq_iff_eq, hq]

theorem roundAt_up
    (hf : 1 / 2 < (num : ℚ) / den / 2 ^ e - (quot num den e).1 ∨
      ((num : ℚ) / den / 2 ^ e - (quot num den e).1 = 1 / 2 ∧ (quot num den e).1 % 2 = 1)) :
    roundAt num den false e = if (quot num den e).1 + 1 = 2 ^ 53 then (2 ^ 52, e + 1)
      else ((quot num den e).1 + 1, e) := by
  have hd : (0 : ℚ) < (quot num den e).2.2 := by exact_mod_cast quot_pos hden e
  rw [← rem_div hden e] at hf
  have hup : (2 * (quot num den e).2.1 > (quot num den e).2.2 ||
      (2 * (quot num den e).2.1 == (quot num den e).2.2 && (false || (quot num den e).1 % 2 == 1))) =
      true := by
    rcases hf with hf | ⟨hf, hodd⟩
    · rw [lt_div_iff₀ hd] at hf
      have h2' : ((quot num den e).2.2 : ℚ) < 2 * ((quot num den e).2.1 : ℚ) := by linarith
      have h2 : (quot num den e).2.2 < 2 * (quot num den e).2.1 := by exact_mod_cast h2'
      simp [h2]
    · rw [div_eq_iff hd.ne'] at hf
      have h2' : (2 : ℚ) * ((quot num den e).2.1 : ℚ) = (quot num den e).2.2 := by linarith
      have h2 : 2 * (quot num den e).2.1 = (quot num den e).2.2 := by exact_mod_cast h2'
      simp [h2, hodd]
  unfold roundAt
  simp only [hup, if_true, Nat.pow_eq, beq_iff_eq]

end round

/-- The mantissa and exponent of a finite nonzero double, as `shape` reads them off its bits. -/
structure Canonical (m : ℕ) (e : ℤ) : Prop where
  pos : 0 < m
  lt : m < 2 ^ 53
  min_le : minExp ≤ e
  le_max : e ≤ 971
  normal : 2 ^ 52 ≤ m ∨ e = minExp

def Reads (m : ℕ) (e : ℤ) (v : ℚ) : Prop :=
  let below : ℚ := if m = 2 ^ 52 ∧ minExp < e then 1 else 2
  let lo : ℚ := (4 * m - below) * 2 ^ (e - 2)
  let hi : ℚ := (4 * m + 2) * 2 ^ (e - 2)
  if m % 2 = 0 then lo ≤ v ∧ v ≤ hi else lo < v ∧ v < hi

theorem reads_iff_units {m : ℕ} {e : ℤ} {v : ℚ} : Reads m e v ↔
    let lo : ℚ := m - (if m = 2 ^ 52 ∧ minExp < e then 1 else 2) / 4
    if m % 2 = 0 then lo ≤ v / 2 ^ e ∧ v / 2 ^ e ≤ m + 1 / 2
    else lo < v / 2 ^ e ∧ v / 2 ^ e < m + 1 / 2 := by
  have h2e : (0 : ℚ) < 2 ^ e := by positivity
  have hq : (2 : ℚ) ^ (e - 2) = 2 ^ e / 4 := by
    rw [zpow_sub₀ two_ne_zero]
    norm_num
  unfold Reads
  generalize (if m = 2 ^ 52 ∧ minExp < e then (1 : ℚ) else 2) = b
  simp only [hq]
  -- each end of the interval scales by `2^e`
  have hlo : ∀ {x : ℚ}, (4 * m - b) * (2 ^ e / 4) ≤ x ↔ m - b / 4 ≤ x / 2 ^ e := by
    intro x
    rw [le_div_iff₀ h2e]
    constructor <;> intro h <;> linarith
  have hlo' : ∀ {x : ℚ}, (4 * m - b) * (2 ^ e / 4) < x ↔ m - b / 4 < x / 2 ^ e := by
    intro x
    rw [lt_div_iff₀ h2e]
    constructor <;> intro h <;> linarith
  have hhi : ∀ {x : ℚ}, x ≤ (4 * m + 2) * (2 ^ e / 4) ↔ x / 2 ^ e ≤ m + 1 / 2 := by
    intro x
    rw [div_le_iff₀ h2e]
    constructor <;> intro h <;> linarith
  have hhi' : ∀ {x : ℚ}, x < (4 * m + 2) * (2 ^ e / 4) ↔ x / 2 ^ e < m + 1 / 2 := by
    intro x
    rw [div_lt_iff₀ h2e]
    constructor <;> intro h <;> linarith
  split_ifs
  · rw [hlo, hhi]
  · rw [hlo', hhi']

theorem Reads.scaled {m : ℕ} {e : ℤ} {v : ℚ} (h : Reads m e v) :
    ((m : ℚ) - (if m = 2 ^ 52 ∧ minExp < e then 1 else 2) / 4 ≤ v / 2 ^ e ∧ v / 2 ^ e ≤ m + 1 / 2) ∧
      (m % 2 = 1 → (m : ℚ) - (if m = 2 ^ 52 ∧ minExp < e then 1 else 2) / 4 < v / 2 ^ e ∧
        v / 2 ^ e < m + 1 / 2) := by
  rw [reads_iff_units] at h
  by_cases hev : m % 2 = 0
  · rw [if_pos hev] at h
    exact ⟨h, fun hodd => by omega⟩
  · rw [if_neg hev] at h
    exact ⟨⟨h.1.le, h.2.le⟩, fun _ => h⟩

theorem roundRatio_of_reads {m : ℕ} {e : ℤ} (hc : Canonical m e) {num den : ℕ} (hnum : 0 < num)
    (hden : 0 < den) (hr : Reads m e ((num : ℚ) / den)) :
    roundRatio num den false = some ((e - minExp).toNat * 2 ^ 52 + m) := by
  obtain ⟨⟨hlo, hhi⟩, hodd⟩ := hr.scaled
  have hlt := hc.lt
  have hnorm := normalize_normal hnum hden
  have key : roundAt num den false (normalize num den) = (m, e) := by
    by_cases hup : (m : ℚ) ≤ num / den / 2 ^ e
    · -- at or above `m`: the quotient at `e` is `m`, and the fraction at most a half
      have hq : (quot num den e).1 = m := by
        rw [quot_fst hden, Nat.floor_eq_iff (by positivity)]
        exact ⟨hup, by linarith⟩
      have hN : Normal num den e := ⟨hc.min_le, hq ▸ hlt, hc.normal.symm.imp_right (hq ▸ ·)⟩
      rw [Normal.unique hnum hden hnorm hN, roundAt_down hden e ?_ (by omega), hq]
      rw [hq]
      rcases (sub_le_iff_le_add'.2 hhi).lt_or_eq with h | h
      · exact .inl h
      · refine .inr ⟨h, ?_⟩
        by_contra hm
        have := (hodd (by omega)).2
        linarith
    by_cases hbot : m = 2 ^ 52 ∧ minExp < e
    · -- a quarter below the bottom of a binade: one exponent lower it rounds up into `2^53`
      rw [if_pos hbot] at hlo hodd
      have htw : (num : ℚ) / den / 2 ^ (e - 1) = 2 * (num / den / 2 ^ e) := by
        rw [zpow_sub₀ two_ne_zero, zpow_one]
        field_simp
      have hm : (m : ℚ) = 2 ^ 52 := by exact_mod_cast hbot.1
      have hq : (quot num den (e - 1)).1 = 2 ^ 53 - 1 := by
        rw [quot_fst hden, Nat.floor_eq_iff (by positivity), htw]
        push_cast
        constructor <;> linarith
      have hN : Normal num den (e - 1) := ⟨by omega, by omega, .inr (by omega)⟩
      rw [Normal.unique hnum hden hnorm hN, roundAt_up hden (e - 1) ?_, hq, if_pos (by norm_num)]
      · rw [hbot.1]
        congr 1
        omega
      · rw [hq, htw]
        push_cast
        rcases (show (1 : ℚ) / 2 ≤ 2 * (num / den / 2 ^ e) - 9007199254740991 by linarith).lt_or_eq with h | h
        · exact .inl h
        · exact .inr ⟨h.symm, by norm_num⟩
    · -- below `m`: the quotient at `e` is `m - 1`, and the fraction at least a half
      rw [if_neg hbot] at hlo hodd
      have hm1 : 1 ≤ m := hc.pos
      have hq : (quot num den e).1 = m - 1 := by
        rw [quot_fst hden, Nat.floor_eq_iff (by positivity)]
        push_cast [hm1]
        constructor <;> linarith
      have hN : Normal num den e := by
        refine ⟨hc.min_le, by omega, ?_⟩
        rcases hc.normal with h | h
        · by_cases he : e = minExp
          · exact .inl he
          · have := hc.min_le
            exact .inr (by rw [hq]; have : m ≠ 2 ^ 52 := fun h' => hbot ⟨h', by omega⟩; omega)
        · exact .inl h
      rw [Normal.unique hnum hden hnorm hN, roundAt_up hden e ?_, hq, if_neg (by omega)]
      · congr 1
        omega
      · rw [hq]
        push_cast [hm1]
        rcases (show (1 : ℚ) / 2 ≤ num / den / 2 ^ e - (m - 1) by linarith).lt_or_eq with h | h
        · exact .inl h
        · refine .inr ⟨h.symm, ?_⟩
          by_contra hm
          have := (hodd (by omega)).1
          linarith
  rw [roundRatio_eq, key]
  have := hc.le_max
  simp only [Nat.pow_eq, Nat.reducePow]
  rw [if_neg (by unfold minExp at *; omega)]

theorem compare_mul_pos {x y k : ℚ} (hk : 0 < k) : compare (x * k) (y * k) = compare x y := by
  rcases lt_trichotomy x y with h | h | h
  · rw [compare_lt_iff_lt.2 h, compare_lt_iff_lt.2 (mul_lt_mul_of_pos_right h hk)]
  · rw [h, compare_eq_iff_eq.2 rfl, compare_eq_iff_eq.2 rfl]
  · rw [compare_gt_iff_gt.2 h, compare_gt_iff_gt.2 (mul_lt_mul_of_pos_right h hk)]

theorem compare_natCast (a b : ℕ) : compare (a : ℚ) (b : ℚ) = compare a b := by
  rcases lt_trichotomy a b with h | h | h
  · rw [compare_lt_iff_lt.2 h, compare_lt_iff_lt.2 (by exact_mod_cast h)]
  · rw [h, compare_eq_iff_eq.2 rfl, compare_eq_iff_eq.2 rfl]
  · rw [compare_gt_iff_gt.2 h, compare_gt_iff_gt.2 (by exact_mod_cast h)]

theorem cmpScaled_eq (a : ℕ) (p : ℤ) (b : ℕ) (q : ℤ) :
    cmpScaled a p b q = compare ((a : ℚ) * 10 ^ p) ((b : ℚ) * 2 ^ q) := by
  have hk : (0 : ℚ) < 10 ^ (max (-p) 0).toNat * 2 ^ (max (-q) 0).toNat := by positivity
  rw [← compare_mul_pos hk, cmpScaled]
  rw [← compare_natCast]
  congr 1
  · push_cast
    rw [show (a : ℚ) * 10 ^ p * (10 ^ (max (-p) 0).toNat * 2 ^ (max (-q) 0).toNat) =
      a * (10 ^ p * 10 ^ (max (-p) 0).toNat) * 2 ^ (max (-q) 0).toNat by ring,
      zpow_mul_pow_neg (by norm_num)]
    simp [Nat.pow_eq]
  · push_cast
    rw [show (b : ℚ) * 2 ^ q * (10 ^ (max (-p) 0).toNat * 2 ^ (max (-q) 0).toNat) =
      b * (2 ^ q * 2 ^ (max (-q) 0).toNat) * 10 ^ (max (-p) 0).toNat by ring,
      zpow_mul_pow_neg (by norm_num)]
    simp [Nat.pow_eq]

end LiveArith.Binary64
