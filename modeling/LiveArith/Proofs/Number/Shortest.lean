import Mathlib
import LiveArith.Proofs.Number.Rounding
import LiveArith.Proofs.Number.Decimal
import LiveArith.Number.Shortest

/-!
The shortest digits of a double read back as the double. `ofFinite m e` searches `k = 1, 2, …`
digits on the grid of `10^(D-k+1)`, `D` the decade of `m · 2^e`, and stops at the first `k` where a
neighbour of the value lies in the reading interval (`Reads`).
-/

set_option autoImplicit false

namespace LiveArith

namespace Shortest

open Binary64

def whole (ds : List ℕ) : ℕ := ds.foldl (fun n d => 10 * n + d) 0

theorem foldl_digits (ds : List ℕ) (n : ℕ) :
    ds.foldl (fun n d => 10 * n + d) n = n * 10 ^ ds.length + whole ds := by
  induction ds generalizing n with
  | nil => simp [whole]
  | cons d ds ih =>
    have hd : whole (d :: ds) = d * 10 ^ ds.length + whole ds := by
      rw [whole, List.foldl_cons, ih]
      simp
    rw [List.foldl_cons, ih, hd, List.length_cons]
    ring

theorem whole_append (a b : List ℕ) : whole (a ++ b) = whole a * 10 ^ b.length + whole b := by
  rw [whole, List.foldl_append, foldl_digits]
  rfl

theorem whole_replicate_zero (k : ℕ) : whole (List.replicate k 0) = 0 := by
  induction k with
  | zero => rfl
  | succ k ih => rw [List.replicate_succ', whole_append, ih]; rfl

theorem whole_digitsOf (c : ℕ) : whole (digitsOf c) = c := by
  rw [whole, digitsOf, List.foldl_map]
  exact Nat.ofDigitChars_ten_toDigits

theorem digitsOf_lt_ten {c d : ℕ} (h : d ∈ digitsOf c) : d < 10 := by
  obtain ⟨ch, hch, rfl⟩ := List.mem_map.1 h
  have := IntSyntax.toNat_of_isDigit (Nat.isDigit_of_mem_toDigits (by decide) (by decide) hch)
  rw [show '0'.toNat = 48 from rfl]
  omega

theorem digitsOf_bounds (c : ℕ) (hc : 0 < c) :
    10 ^ ((digitsOf c).length - 1) ≤ c ∧ c < 10 ^ (digitsOf c).length := by
  have hL : 0 < (digitsOf c).length := by simp [digitsOf, Nat.length_toDigits_pos]
  simp only [digitsOf, List.length_map] at hL ⊢
  refine ⟨?_, (Nat.length_toDigits_le_iff (by decide) hL).1 le_rfl⟩
  rcases Nat.eq_or_lt_of_le (Nat.succ_le_of_lt hL) with h | h
  · rw [← h, Nat.sub_self, pow_zero]
    exact hc
  · exact Nat.le_of_not_lt fun hlt =>
      absurd ((Nat.length_toDigits_le_iff (by decide) (by omega)).2 hlt) (by omega)

theorem trimZeros_spec (ds : List ℕ) :
    ∃ k, ds = trimZeros ds ++ List.replicate k 0 := by
  -- the zeros dropped from the reversed list are a run of zeros
  have hrun : ∀ x ∈ ds.reverse.takeWhile (· == 0), x = 0 := fun x hx => by
    simpa using List.mem_takeWhile_imp hx
  obtain ⟨k, hz⟩ : ∃ k, ds.reverse.takeWhile (· == 0) = List.replicate k 0 :=
    ⟨_, List.eq_replicate_iff.2 ⟨rfl, hrun⟩⟩
  refine ⟨k, ?_⟩
  calc ds = (ds.reverse.takeWhile (· == 0) ++ ds.reverse.dropWhile (· == 0)).reverse := by
        rw [List.takeWhile_append_dropWhile, List.reverse_reverse]
    _ = trimZeros ds ++ List.replicate k 0 := by
        rw [List.reverse_append, hz, List.reverse_replicate]
        rfl

end Shortest

def Digits.value (d : Digits) : ℚ := (Shortest.whole d.digits : ℚ) * 10 ^ (d.point - d.digits.length)

namespace Shortest

open Binary64

theorem value_trim (c : ℕ) (p : ℤ) :
    (⟨trimZeros (digitsOf c), p + (digitsOf c).length⟩ : Digits).value = c * 10 ^ p := by
  have hc := whole_digitsOf c
  obtain ⟨k, hk⟩ := trimZeros_spec (digitsOf c)
  generalize trimZeros (digitsOf c) = t at hk ⊢
  rw [hk, whole_append, whole_replicate_zero, List.length_replicate] at hc
  rw [Digits.value, hk, List.length_append, List.length_replicate, ← hc]
  push_cast
  rw [show p + ((t.length : ℤ) + k) - t.length = (k : ℤ) + p by ring, zpow_add₀ (by norm_num),
    zpow_natCast]
  ring

theorem interval_test_iff (P : Prop) [Decidable P] (v L H : ℚ) :
    (if P then compare v L != .lt && compare v H != .gt
      else compare v L == .gt && compare v H == .lt) = true ↔
      if P then L ≤ v ∧ v ≤ H else L < v ∧ v < H := by
  by_cases hP : P
  · simp [hP, compare_ge_iff_ge, compare_le_iff_le]
  · simp [hP, compare_gt_iff_gt, compare_lt_iff_lt]

theorem inside_iff {m : ℕ} (hm : 0 < m) (e : ℤ) (c : ℕ) (p : ℤ) :
    inside m e c p = true ↔ Reads m e (c * 10 ^ p) := by
  unfold inside Reads
  simp only [Nat.pow_eq, cmpScaled_eq, beq_iff_eq]
  -- the interval's lower end reaches a quarter unit down at the bottom of a binade, else half
  by_cases hbot : m = 2 ^ 52 ∧ minExp < e
  · have hb : (m == 2 ^ 52 && decide (e > minExp)) = true := by simp [hbot.1, hbot.2]
    simp only [hb, if_true, if_pos hbot]
    push_cast [show 1 ≤ 4 * m by omega]
    exact interval_test_iff _ _ _ _
  · have hb : (m == 2 ^ 52 && decide (e > minExp)) = false := by
      simpa [not_and_or, gt_iff_lt] using hbot
    simp only [hb, Bool.false_eq_true, if_false, if_neg hbot]
    push_cast [show 2 ≤ 4 * m by omega]
    exact interval_test_iff _ _ _ _

def gridFloor (m : ℕ) (e p : ℤ) : ℕ := ⌊(m : ℚ) * 2 ^ e / 10 ^ p⌋₊

theorem div_eq_gridFloor (m : ℕ) (e p : ℤ) :
    m * Nat.pow 2 (max e 0).toNat * Nat.pow 10 (max (-p) 0).toNat /
      (Nat.pow 2 (max (-e) 0).toNat * Nat.pow 10 (max p 0).toNat) = gridFloor m e p := by
  have h2 : (2 : ℚ) ^ e * 2 ^ (max (-e) 0).toNat = 2 ^ (max e 0).toNat :=
    zpow_mul_pow_neg (by norm_num) e
  have h10 : (10 : ℚ) ^ p * 10 ^ (max (-p) 0).toNat = 10 ^ (max p 0).toNat :=
    zpow_mul_pow_neg (by norm_num) p
  have hratio : ((m * Nat.pow 2 (max e 0).toNat * Nat.pow 10 (max (-p) 0).toNat : ℕ) : ℚ) /
      ((Nat.pow 2 (max (-e) 0).toNat * Nat.pow 10 (max p 0).toNat : ℕ) : ℚ) =
      (m : ℚ) * 2 ^ e / 10 ^ p := by
    simp only [Nat.pow_eq]
    push_cast
    rw [← h2, ← h10]
    field_simp
  rw [gridFloor, ← hratio, Nat.floor_div_eq_div]

variable {m : ℕ} {e D : ℤ}

theorem search_succ_some {fuel k c : ℕ} {p : ℤ} (h : search m e D (fuel + 1) k = some (c, p)) :
    (p = D - k + 1 ∧ (c = gridFloor m e p ∨ c = gridFloor m e p + 1) ∧ inside m e c p = true) ∨
      search m e D fuel (k + 1) = some (c, p) := by
  rw [search, div_eq_gridFloor] at h
  set lo := gridFloor m e (D - k + 1)
  by_cases hlo : inside m e lo (D - k + 1) = true <;>
    by_cases hhi : inside m e (lo + 1) (D - k + 1) = true
  · -- both neighbours read: the nearer one, a tie going to the even one
    simp only [hlo, hhi, Bool.and_self, if_true] at h
    left
    split at h
    · obtain ⟨rfl, rfl⟩ := Prod.mk.inj (Option.some.inj h)
      exact ⟨rfl, .inr rfl, hhi⟩
    · obtain ⟨rfl, rfl⟩ := Prod.mk.inj (Option.some.inj h)
      exact ⟨rfl, .inl rfl, hlo⟩
    · obtain ⟨rfl, rfl⟩ := Prod.mk.inj (Option.some.inj h)
      split
      · exact ⟨rfl, .inl rfl, hlo⟩
      · exact ⟨rfl, .inr rfl, hhi⟩
  · simp only [hlo, hhi, Bool.and_false, Bool.false_eq_true, if_false, if_true] at h
    obtain ⟨rfl, rfl⟩ := Prod.mk.inj (Option.some.inj h)
    exact .inl ⟨rfl, .inl rfl, hlo⟩
  · simp only [hlo, hhi, Bool.false_and, Bool.false_eq_true, if_false, if_true] at h
    obtain ⟨rfl, rfl⟩ := Prod.mk.inj (Option.some.inj h)
    exact .inl ⟨rfl, .inr rfl, hhi⟩
  · simp only [hlo, hhi, Bool.false_and, Bool.false_eq_true, if_false] at h
    exact .inr h

theorem search_succ_of_outside {fuel k : ℕ}
    (h : ¬(inside m e (gridFloor m e (D - k + 1)) (D - k + 1) = true ∨
      inside m e (gridFloor m e (D - k + 1) + 1) (D - k + 1) = true)) :
    search m e D (fuel + 1) k = search m e D fuel (k + 1) := by
  rw [not_or, Bool.not_eq_true, Bool.not_eq_true] at h
  rw [search, div_eq_gridFloor, h.1, h.2]
  rfl

theorem search_succ_ne_none {fuel k : ℕ}
    (h : inside m e (gridFloor m e (D - k + 1)) (D - k + 1) = true ∨
      inside m e (gridFloor m e (D - k + 1) + 1) (D - k + 1) = true) :
    search m e D (fuel + 1) k ≠ none := by
  intro hnone
  rw [search, div_eq_gridFloor] at hnone
  -- every branch but the last returns a candidate, and the last needs both tests to fail
  rcases h with h | h <;> simp only [h, Bool.true_and, Bool.and_true, if_true] at hnone <;>
    split at hnone <;> (try split at hnone) <;> simp at hnone

theorem search_some {fuel k c : ℕ} {p : ℤ} (h : search m e D fuel k = some (c, p)) :
    ∃ j, k ≤ j ∧ j < k + fuel ∧ p = D - j + 1 ∧
      (c = gridFloor m e p ∨ c = gridFloor m e p + 1) ∧ inside m e c p = true := by
  induction fuel generalizing k with
  | zero => simp [search] at h
  | succ fuel ih =>
    rcases search_succ_some h with ⟨hp, hc, hin⟩ | h
    · exact ⟨k, le_rfl, by omega, hp, hc, hin⟩
    · obtain ⟨j, hkj, hj, hp, hc, hin⟩ := ih h
      exact ⟨j, by omega, by omega, hp, hc, hin⟩

theorem search_ne_none {j : ℕ} (hj : inside m e (gridFloor m e (D - j + 1)) (D - j + 1) = true ∨
      inside m e (gridFloor m e (D - j + 1) + 1) (D - j + 1) = true) :
    ∀ {fuel k : ℕ}, k ≤ j → j < k + fuel → search m e D fuel k ≠ none
  | 0, _, _, hj' => absurd hj' (by omega)
  | fuel + 1, k, hkj, hjk => by
    by_cases hk : inside m e (gridFloor m e (D - k + 1)) (D - k + 1) = true ∨
        inside m e (gridFloor m e (D - k + 1) + 1) (D - k + 1) = true
    · exact search_succ_ne_none hk
    · -- no neighbour reads at `k` digits, so `j` is further on
      have hne : k ≠ j := fun h => hk (h ▸ hj)
      rw [search_succ_of_outside hk]
      exact search_ne_none hj (by omega) (by omega)

theorem neighbour_reads (hm : 0 < m) {p : ℤ}
    (hfine : (10 : ℚ) ^ p / 2 ^ e < 1 / 2 + (if m = 2 ^ 52 ∧ minExp < e then 1 else 2) / 4) :
    Reads m e (gridFloor m e p * 10 ^ p) ∨ Reads m e ((gridFloor m e p + 1 : ℕ) * 10 ^ p) := by
  have hs : (0 : ℚ) < 10 ^ p := by positivity
  have h2 : (0 : ℚ) < 2 ^ e := by positivity
  have hv : (0 : ℚ) ≤ m * 2 ^ e / 10 ^ p := by positivity
  -- the neighbours, in units of `2^e`, lie one grid step apart on either side of `m`
  have hlo : (gridFloor m e p : ℚ) * 10 ^ p / 2 ^ e ≤ m := by
    rw [div_le_iff₀ h2, ← le_div_iff₀ hs]
    exact Nat.floor_le hv
  have hhi : (m : ℚ) < ((gridFloor m e p + 1 : ℕ) : ℚ) * 10 ^ p / 2 ^ e := by
    rw [lt_div_iff₀ h2, ← div_lt_iff₀ hs]
    push_cast
    exact Nat.lt_floor_add_one _
  have hstep : ((gridFloor m e p + 1 : ℕ) : ℚ) * 10 ^ p / 2 ^ e -
      (gridFloor m e p : ℚ) * 10 ^ p / 2 ^ e = 10 ^ p / 2 ^ e := by
    push_cast
    ring
  have hb : (0 : ℚ) < (if m = 2 ^ 52 ∧ minExp < e then 1 else 2) := by split_ifs <;> norm_num
  rw [reads_iff_units, reads_iff_units]
  generalize ((if m = 2 ^ 52 ∧ minExp < e then 1 else 2 : ℚ)) = b at hb hfine ⊢
  generalize (gridFloor m e p : ℚ) * 10 ^ p / 2 ^ e = a at hlo hstep ⊢
  generalize ((gridFloor m e p + 1 : ℕ) : ℚ) * 10 ^ p / 2 ^ e = a' at hhi hstep ⊢
  -- neither reading would put the neighbours further apart than the interval is wide
  by_contra hno
  rw [not_or] at hno
  split_ifs at hno
  · obtain ⟨h1, h2⟩ := hno
    have ha : a < m - b / 4 := by
      by_contra h
      exact h1 ⟨not_lt.1 h, by linarith⟩
    have ha' : m + 1 / 2 < a' := by
      by_contra h
      exact h2 ⟨by linarith, not_lt.1 h⟩
    linarith
  · obtain ⟨h1, h2⟩ := hno
    have ha : a ≤ m - b / 4 := by
      by_contra h
      exact h1 ⟨not_le.1 h, by linarith⟩
    have ha' : m + 1 / 2 ≤ a' := by
      by_contra h
      exact h2 ⟨by linarith, not_le.1 h⟩
    linarith

theorem two_pow_le_ten_pow {x y : ℕ} (h : 28 * x ≤ 93 * y) : 2 ^ x ≤ 10 ^ y := by
  -- `2^93 ≤ 10^28`, raised to the power `x`
  have h93 : (2 ^ x) ^ 93 ≤ (10 ^ y) ^ 93 := calc
    (2 ^ x) ^ 93 = (2 ^ 93) ^ x := by rw [← pow_mul, ← pow_mul, mul_comm]
    _ ≤ (10 ^ 28) ^ x := Nat.pow_le_pow_left (by norm_num) x
    _ = 10 ^ (28 * x) := by rw [← pow_mul]
    _ ≤ 10 ^ (93 * y) := Nat.pow_le_pow_right (by norm_num) h
    _ = (10 ^ y) ^ 93 := by rw [← pow_mul, mul_comm]
  exact (Nat.pow_le_pow_iff_left (by norm_num)).1 h93

theorem ten_pow_le_two_pow {x y : ℕ} (h : 196 * x ≤ 59 * y) : 10 ^ x ≤ 2 ^ y := by
  -- `10^59 ≤ 2^196`, raised to the power `x`
  have h59 : (10 ^ x) ^ 59 ≤ (2 ^ y) ^ 59 := calc
    (10 ^ x) ^ 59 = (10 ^ 59) ^ x := by rw [← pow_mul, ← pow_mul, mul_comm]
    _ ≤ (2 ^ 196) ^ x := Nat.pow_le_pow_left (by norm_num) x
    _ = 2 ^ (196 * x) := by rw [← pow_mul]
    _ ≤ 2 ^ (59 * y) := Nat.pow_le_pow_right (by norm_num) h
    _ = (2 ^ y) ^ 59 := by rw [← pow_mul, mul_comm]
  exact (Nat.pow_le_pow_iff_left (by norm_num)).1 h59

theorem ten_zpow_le_two_zpow {x y : ℤ}
    (h : (x ≤ 0 ∧ 0 ≤ y) ∨ (0 ≤ x ∧ 196 * x ≤ 59 * y) ∨ (y ≤ 0 ∧ 28 * -y ≤ 93 * -x)) :
    (10 : ℚ) ^ x ≤ 2 ^ y := by
  rcases h with ⟨hx, hy⟩ | ⟨hx, h⟩ | ⟨hy, h⟩
  · calc (10 : ℚ) ^ x ≤ 1 := zpow_le_one_of_nonpos₀ (by norm_num) hx
      _ ≤ 2 ^ y := one_le_zpow₀ (by norm_num) hy
  · obtain ⟨a, rfl⟩ := Int.eq_ofNat_of_zero_le hx
    obtain ⟨b, rfl⟩ := Int.eq_ofNat_of_zero_le (show 0 ≤ y by omega)
    rw [zpow_natCast, zpow_natCast]
    exact_mod_cast ten_pow_le_two_pow (by omega)
  · obtain ⟨a, ha⟩ := Int.eq_ofNat_of_zero_le (show 0 ≤ -x by omega)
    obtain ⟨b, hb⟩ := Int.eq_ofNat_of_zero_le (show 0 ≤ -y by omega)
    rw [show x = -(a : ℤ) by omega, show y = -(b : ℤ) by omega, zpow_neg, zpow_neg, zpow_natCast,
      zpow_natCast, inv_le_inv₀ (by positivity) (by positivity)]
    exact_mod_cast two_pow_le_ten_pow (by omega)

theorem two_zpow_le_ten_zpow {x y : ℤ}
    (h : (x ≤ 0 ∧ 0 ≤ y) ∨ (0 ≤ x ∧ 28 * x ≤ 93 * y) ∨ (y ≤ 0 ∧ 196 * -y ≤ 59 * -x)) :
    (2 : ℚ) ^ x ≤ 10 ^ y := by
  rcases h with ⟨hx, hy⟩ | ⟨hx, h⟩ | ⟨hy, h⟩
  · calc (2 : ℚ) ^ x ≤ 1 := zpow_le_one_of_nonpos₀ (by norm_num) hx
      _ ≤ 10 ^ y := one_le_zpow₀ (by norm_num) hy
  · obtain ⟨a, rfl⟩ := Int.eq_ofNat_of_zero_le hx
    obtain ⟨b, rfl⟩ := Int.eq_ofNat_of_zero_le (show 0 ≤ y by omega)
    rw [zpow_natCast, zpow_natCast]
    exact_mod_cast two_pow_le_ten_pow (by omega)
  · obtain ⟨a, ha⟩ := Int.eq_ofNat_of_zero_le (show 0 ≤ -x by omega)
    obtain ⟨b, hb⟩ := Int.eq_ofNat_of_zero_le (show 0 ≤ -y by omega)
    rw [show x = -(a : ℤ) by omega, show y = -(b : ℤ) by omega, zpow_neg, zpow_neg, zpow_natCast,
      zpow_natCast, inv_le_inv₀ (by positivity) (by positivity)]
    exact_mod_cast ten_pow_le_two_pow (by omega)

theorem decade_bounds (hc : Canonical m e) :
    (10 : ℚ) ^ decade m e ≤ m * 2 ^ e ∧ (m : ℚ) * 2 ^ e < 10 ^ (decade m e + 1) := by
  have hm := hc.pos
  have hmin := hc.min_le
  have hmax := hc.le_max
  unfold minExp at hmin
  -- the value lies in the binade of `bits`
  have hb1 : (2 : ℚ) ^ ((Nat.log2 m : ℤ) + e) ≤ m * 2 ^ e := by
    rw [zpow_add₀ two_ne_zero, zpow_natCast]
    have : (2 : ℚ) ^ (Nat.log2 m) ≤ m := by exact_mod_cast Nat.log2_self_le hm.ne'
    exact mul_le_mul_of_nonneg_right this (by positivity)
  have hb2 : (m : ℚ) * 2 ^ e < 2 ^ ((Nat.log2 m : ℤ) + e + 1) := by
    rw [show (Nat.log2 m : ℤ) + e + 1 = ((Nat.log2 m + 1 : ℕ) : ℤ) + e by push_cast; ring,
      zpow_add₀ two_ne_zero, zpow_natCast]
    have : (m : ℚ) < 2 ^ (Nat.log2 m + 1) := by exact_mod_cast Nat.lt_log2_self
    exact mul_lt_mul_of_pos_right this (by positivity)
  have hlog : Nat.log2 m < 53 := (Nat.log2_lt hm.ne').2 hc.lt
  unfold decade
  simp only [cmpScaled_eq, Nat.cast_one, one_mul, bne_iff_ne, ne_eq, beq_iff_eq]
  rw [Int.fdiv_eq_ediv_of_nonneg _ (by norm_num)]
  generalize hbits : (Nat.log2 m : ℤ) + e = bits at hb1 hb2
  generalize hg : bits * 78913 / 262144 = g
  have hg1 : bits * 78913 / 262144 * 262144 ≤ bits * 78913 := Int.ediv_mul_le _ (by norm_num)
  have hg2 := Int.lt_ediv_add_one_mul_self (bits * 78913) (show (0 : ℤ) < 262144 by norm_num)
  rw [hg] at hg1 hg2
  -- the guess is off by at most one either way: `10^(g-1) ≤ 2^bits` and `2^(bits+1) ≤ 10^(g+2)`
  have hlo : (10 : ℚ) ^ (g - 1) ≤ m * 2 ^ e := (ten_zpow_le_two_zpow (by omega)).trans hb1
  have hhi : (m : ℚ) * 2 ^ e < 10 ^ (g + 2) := hb2.trans_le (two_zpow_le_ten_zpow (by omega))
  generalize (m : ℚ) * 2 ^ e = v at hlo hhi ⊢
  simp only [compare_gt_iff_gt, not_lt]
  by_cases h1 : 10 ^ (g + 1) ≤ v
  · rw [if_pos h1, if_neg (not_lt.2 h1)]
    exact ⟨h1, by rwa [add_assoc]⟩
  · rw [if_neg h1]
    by_cases h2 : 10 ^ g ≤ v
    · rw [if_neg (not_lt.2 h2)]
      exact ⟨h2, not_le.1 h1⟩
    · rw [if_pos (not_le.1 h2), sub_add_cancel]
      exact ⟨hlo, not_le.1 h2⟩

theorem Reads.bounds (hc : Canonical m e) {v : ℚ} (h : Reads m e v) :
    (2 : ℚ) ^ (e - 2) < v ∧ v < 2 ^ (e + 53) := by
  obtain ⟨⟨hlo, hhi⟩, -⟩ := h.scaled
  have h2 : (0 : ℚ) < 2 ^ e := by positivity
  have hm : (1 : ℚ) ≤ m := by exact_mod_cast hc.pos
  have hlt : (m : ℚ) + 1 ≤ 2 ^ 53 := by exact_mod_cast hc.lt
  -- in units of `2^e` the value lies between a half and `2^53`
  have hu1 : (1 : ℚ) / 2 ≤ v / 2 ^ e := by split_ifs at hlo <;> linarith
  have hu2 : v / 2 ^ e < 2 ^ 53 := by linarith
  have hv : v = v / 2 ^ e * 2 ^ e := (div_mul_cancel₀ v h2.ne').symm
  rw [zpow_sub₀ two_ne_zero, zpow_add₀ two_ne_zero, hv]
  constructor
  · rw [div_lt_iff₀ (by positivity)]
    nlinarith
  · rw [mul_comm (2 ^ e)]
    exact mul_lt_mul_of_pos_right hu2 h2

theorem Reads.decimal_bounds (hc : Canonical m e) {v : ℚ} (h : Reads m e v) :
    (10 : ℚ) ^ (-324 : ℤ) < v ∧ v < 10 ^ (309 : ℤ) := by
  obtain ⟨h1, h2⟩ := Reads.bounds hc h
  have hmin := hc.min_le
  have hmax := hc.le_max
  unfold minExp at hmin
  constructor
  · calc (10 : ℚ) ^ (-324 : ℤ) < 2 ^ (-1076 : ℤ) := by
          rw [zpow_neg, zpow_neg, inv_lt_inv₀ (by positivity) (by positivity)]
          exact_mod_cast (by decide +kernel : (2 : ℕ) ^ 1076 < 10 ^ 324)
      _ ≤ 2 ^ (e - 2) := zpow_le_zpow_right₀ (by norm_num) (by omega)
      _ < v := h1
  · calc v < 2 ^ (e + 53) := h2
      _ ≤ 2 ^ (1024 : ℤ) := zpow_le_zpow_right₀ (by norm_num) (by omega)
      _ < 10 ^ (309 : ℤ) := by exact_mod_cast (by decide +kernel : (2 : ℕ) ^ 1024 < 10 ^ 309)

theorem point_bounds {c : ℕ} (hc : 0 < c) {p : ℤ} (hlo : (10 : ℚ) ^ (-324 : ℤ) < c * 10 ^ p)
    (hhi : (c : ℚ) * 10 ^ p < 10 ^ (309 : ℤ)) :
    -324 < p + (digitsOf c).length ∧ p + (digitsOf c).length ≤ 309 := by
  obtain ⟨hL1, hL2⟩ := digitsOf_bounds c hc
  have hLpos : 0 < (digitsOf c).length := by simp [digitsOf, Nat.length_toDigits_pos]
  -- the value lies between `10^(point-1)` and `10^point`
  have hpos1 : (10 : ℚ) ^ (p + (digitsOf c).length - 1) ≤ c * 10 ^ p := by
    rw [show p + ((digitsOf c).length : ℤ) - 1 = (((digitsOf c).length - 1 : ℕ) : ℤ) + p by omega,
      zpow_add₀ (by norm_num), zpow_natCast]
    exact mul_le_mul_of_nonneg_right (by exact_mod_cast hL1) (by positivity)
  have hpos2 : (c : ℚ) * 10 ^ p < 10 ^ (p + (digitsOf c).length) := by
    rw [add_comm, zpow_add₀ (by norm_num), zpow_natCast]
    exact mul_lt_mul_of_pos_right (by exact_mod_cast hL2) (by positivity)
  have h1 := (zpow_lt_zpow_iff_right₀ (by norm_num)).1 (hlo.trans hpos2)
  have h2 := (zpow_lt_zpow_iff_right₀ (by norm_num)).1 (hpos1.trans_lt hhi)
  omega

theorem grid_fine (hc : Canonical m e) (hD : (10 : ℚ) ^ decade m e ≤ m * 2 ^ e) :
    (10 : ℚ) ^ (decade m e - 17 + 1) / 2 ^ e <
      1 / 2 + (if m = 2 ^ 52 ∧ minExp < e then 1 else 2) / 4 := by
  have h2 : (0 : ℚ) < 2 ^ e := by positivity
  -- the grid step is at most `m / 10^16` units
  have hle : (10 : ℚ) ^ (decade m e - 17 + 1) / 2 ^ e ≤ m / 10 ^ 16 := by
    rw [div_le_div_iff₀ h2 (by norm_num)]
    calc (10 : ℚ) ^ (decade m e - 17 + 1) * 10 ^ 16 = 10 ^ decade m e := by
          rw [← zpow_natCast, ← zpow_add₀ (by norm_num)]
          -- equal exponents; `congr` would first try to evaluate `decade`
          exact congrArg (HPow.hPow (10 : ℚ)) (by push_cast; ring)
      _ ≤ m * 2 ^ e := hD
  have hlt : (m : ℚ) < 2 ^ 53 := by exact_mod_cast hc.lt
  split_ifs with hbot
  · have hm52 : (m : ℚ) = 2 ^ 52 := by exact_mod_cast hbot.1
    rw [hm52] at hle
    linarith [show (2 : ℚ) ^ 52 / 10 ^ 16 < 3 / 4 by norm_num]
  · have : (m : ℚ) / 10 ^ 16 < 1 := by
      rw [div_lt_one (by norm_num)]
      linarith [show (2 : ℚ) ^ 53 < 10 ^ 16 by norm_num]
    linarith

/-- What a reader of the shortest digits of a finite nonzero double relies on: they read as the
double, they are decimal digits, at most eighteen of them, and the point lies within the range of
doubles. -/
structure Fits (m : ℕ) (e : ℤ) (d : Digits) : Prop where
  reads : Reads m e d.value
  digit_lt : ∀ x ∈ d.digits, x < 10
  length_le : d.digits.length ≤ 18
  point_gt : -324 < d.point
  point_le : d.point ≤ 309

theorem ofFinite_fits (hc : Canonical m e) : Fits m e (ofFinite m e) := by
  have hm := hc.pos
  obtain ⟨hD1, hD2⟩ := decade_bounds hc
  -- seventeen digits always suffice, so the search returns a candidate
  have h17 : inside m e (gridFloor m e (decade m e - 17 + 1)) (decade m e - 17 + 1) = true ∨
      inside m e (gridFloor m e (decade m e - 17 + 1) + 1) (decade m e - 17 + 1) = true := by
    rw [inside_iff hm, inside_iff hm]
    exact_mod_cast neighbour_reads hm (grid_fine hc hD1)
  have hsearch : search m e (decade m e) 17 1 ≠ none := search_ne_none h17 (by norm_num) (by norm_num)
  obtain ⟨⟨c, p⟩, hcp⟩ := Option.ne_none_iff_exists'.1 hsearch
  obtain ⟨j, -, hj, hp, hcand, hin⟩ := search_some hcp
  have hofF : ofFinite m e = ⟨trimZeros (digitsOf c), p + (digitsOf c).length⟩ := by
    simp [ofFinite, hm.ne', hcp]
  have hr : Reads m e (c * 10 ^ p) := (inside_iff hm e c p).1 hin
  obtain ⟨hr1, hr2⟩ := Reads.decimal_bounds hc hr
  have hc0 : 0 < c := by
    rcases Nat.eq_zero_or_pos c with h0 | h0
    · rw [h0, Nat.cast_zero, zero_mul] at hr1
      exact absurd hr1 (not_lt.2 (by positivity))
    · exact h0
  obtain ⟨k, hk⟩ := trimZeros_spec (digitsOf c)
  have hlen := congrArg List.length hk
  rw [List.length_append, List.length_replicate] at hlen
  -- the candidate has at most seventeen digits before its trailing zeros are dropped
  have hc18 : c < 10 ^ 18 := by
    have hfl : gridFloor m e p < 10 ^ j := by
      rw [gridFloor, Nat.floor_lt (by positivity), div_lt_iff₀ (by positivity)]
      calc (m : ℚ) * 2 ^ e < 10 ^ (decade m e + 1) := hD2
        _ = ((10 ^ j : ℕ) : ℚ) * 10 ^ p := by
            rw [hp, Nat.cast_pow, Nat.cast_ofNat, ← zpow_natCast, ← zpow_add₀ (by norm_num)]
            exact congrArg (HPow.hPow (10 : ℚ)) (by ring)
    have := Nat.pow_le_pow_right (show 0 < 10 by norm_num) (show j ≤ 17 by omega)
    omega
  have hL : (digitsOf c).length ≤ 18 := by
    rw [digitsOf, List.length_map]
    exact (Nat.length_toDigits_le_iff (by decide) (by norm_num)).2 hc18
  obtain ⟨hp1, hp2⟩ := point_bounds hc0 hr1 hr2
  rw [hofF]
  refine ⟨?_, fun x hx => digitsOf_lt_ten (by rw [hk]; exact List.mem_append_left _ hx),
    by dsimp only; omega, hp1, hp2⟩
  rw [value_trim]
  exact hr

end Shortest

end LiveArith
