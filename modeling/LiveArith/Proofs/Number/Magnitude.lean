import LiveArith.Proofs.Number.Bits

/-!
How large a double an arithmetic operation can give. A zero, or a finite number whose top bit is at
most `k` and whose exponent the packed format holds, is below `2^k` (`Below`).
-/

set_option autoImplicit false

namespace LiveArith.Binary64

open Float.Model UnpackedFloat

theorem log2_le_log2 {a b : Nat} (h : a ≤ b) : a.log2 ≤ b.log2 := by
  rw [Nat.log2_eq_log_two, Nat.log2_eq_log_two]
  exact Nat.log_mono_right h

theorem log2_div_pow {a s : Nat} (h : a / 2 ^ s ≠ 0) : (a / 2 ^ s).log2 + s = a.log2 := by
  have hs : s ≤ a.log2 :=
    (Nat.le_log2 (by rintro rfl; simp at h)).2 ((Nat.one_le_div_iff (Nat.two_pow_pos s)).1 (Nat.pos_of_ne_zero h))
  rw [Nat.log2_eq_log_two, Nat.log_div_base_pow, ← Nat.log2_eq_log_two]
  omega

theorem log2_succ_le (a : Nat) : (a + 1).log2 ≤ a.log2 + 1 := by
  rcases Nat.eq_zero_or_pos a with rfl | ha
  · simp [Nat.log2_zero]; decide
  · calc (a + 1).log2 ≤ (2 * a).log2 := log2_le_log2 (by omega)
      _ = a.log2 + 1 := Nat.log2_two_mul (by omega)

theorem shiftRight_mantissa (em : ExtendedMantissa) (n : Nat) :
    (em >>> n).mantissa = em.mantissa / 2 ^ n := by
  induction n with
  | zero => simp [HShiftRight.hShiftRight, Nat.repeat]
  | succ n ih =>
    show (ExtendedMantissa.shiftRightOne (em >>> n)).mantissa = _
    rw [ExtendedMantissa.shiftRightOne, ih, Nat.pow_succ, Nat.div_div_eq_div_mul]

theorem ofMantissaAndAccuracy_mantissa (m : Nat) (acc : Accuracy) :
    (ExtendedMantissa.ofMantissaAndAccuracy m acc).mantissa = m := by
  unfold ExtendedMantissa.ofMantissaAndAccuracy
  split <;> rfl

theorem roundedMantissa_le (em : ExtendedMantissa) : em.roundedMantissa ≤ em.mantissa + 1 := by
  unfold ExtendedMantissa.roundedMantissa ExtendedMantissa.accuracy Accuracy.roundToNearestEven
  split <;> omega

theorem targetExponent_binary64 (t : Int) :
    Format.binary64.targetExponent t = max (t - 53) (-1074) := rfl

theorem totalExponent_shift {m : Nat} {e : Int} {s : Nat} (h : m / 2 ^ s ≠ 0) :
    totalExponent (m / 2 ^ s) (e + s) = totalExponent m e := by
  have := log2_div_pow h
  unfold totalExponent
  omega

theorem log2_le_one {a : Nat} (h : a ≤ 1) : a.log2 = 0 := by
  rcases Nat.le_one_iff_eq_zero_or_eq_one.1 h with rfl | rfl <;> decide

def Below (k : Int) : UnpackedFloat → Prop
  | .zero _ => True
  | .finite _ m e _ => totalExponent m e ≤ k ∧ e ≤ 971
  | _ => False

theorem roundWithAccuracy_below {sgn : Sign} {m : Nat} {e k : Int} (acc : Accuracy)
    (hk : totalExponent m e ≤ k) (he : e ≤ 971) (hlo : -1074 ≤ k) (hhi : k ≤ 1023) :
    Below (k + 1) (roundWithAccuracy Format.binary64 sgn m e acc) := by
  unfold roundWithAccuracy shiftToTargetExponent shiftToExponent
  dsimp only
  split
  · trivial
  rename_i hM
  unfold Below
  simp only [targetExponent_binary64, shiftRight_mantissa, ofMantissaAndAccuracy_mantissa] at hM ⊢
  generalize hs₁ : (max (totalExponent m e - 53) (-1074) - e).toNat = s₁ at hM ⊢
  generalize hR : (ExtendedMantissa.ofMantissaAndAccuracy m acc >>> s₁).roundedMantissa = R at hM ⊢
  have hR1 : R ≤ m / 2 ^ s₁ + 1 := by
    have := roundedMantissa_le (ExtendedMantissa.ofMantissaAndAccuracy m acc >>> s₁)
    rwa [shiftRight_mantissa, ofMantissaAndAccuracy_mantissa, hR] at this
  generalize hs₂ : (max (totalExponent R (e + s₁) - 53) (-1074) - (e + s₁)).toNat = s₂ at hM ⊢
  have t₀ : totalExponent m e = m.log2 + 1 + e := rfl
  have t₁ : totalExponent R (e + s₁) = R.log2 + 1 + (e + s₁) := rfl
  -- the first shift lands at most at `k`, whatever it leaves of the mantissa
  have he₁ : e + s₁ ≤ k := by omega
  have hR2 : totalExponent R (e + s₁) ≤ k + 1 := by
    by_cases hM₁ : m / 2 ^ s₁ = 0
    · rw [t₁, log2_le_one (by omega)]
      omega
    · have hsame := totalExponent_shift (e := e) hM₁
      have t₂ : totalExponent (m / 2 ^ s₁) (e + s₁) = (m / 2 ^ s₁).log2 + 1 + (e + s₁) := rfl
      have hlog := Nat.le_trans (log2_le_log2 hR1) (log2_succ_le _)
      omega
  refine ⟨?_, ?_⟩
  · rw [totalExponent_shift hM]
    exact hR2
  · omega

theorem log2_mul_pow {m : Nat} (h : m ≠ 0) (s : Nat) : (m * 2 ^ s).log2 = m.log2 + s := by
  have hd : m * 2 ^ s / 2 ^ s = m := Nat.mul_div_cancel m (Nat.two_pow_pos s)
  have := log2_div_pow (a := m * 2 ^ s) (s := s) (by rw [hd]; exact h)
  rw [hd] at this
  omega

theorem totalExponent_mul_pow (m : Nat) (e : Int) (s : Nat) :
    totalExponent (m * 2 ^ s) (e - s) ≤ totalExponent m e := by
  have t₀ : totalExponent m e = m.log2 + 1 + e := rfl
  have t₁ : totalExponent (m * 2 ^ s) (e - s) = (m * 2 ^ s).log2 + 1 + (e - s) := rfl
  rcases Nat.eq_zero_or_pos m with rfl | hm
  · simp only [Nat.zero_mul] at t₁ ⊢
    omega
  · rw [log2_mul_pow (by omega)] at t₁
    omega

theorem round_below {sgn : Sign} {m : Nat} {e k : Int} (hk : totalExponent m e ≤ k) (he : e ≤ 971)
    (hlo : -1074 ≤ k) (hhi : k ≤ 1023) : Below (k + 1) (UnpackedFloat.round Format.binary64 sgn m e) := by
  unfold UnpackedFloat.round decreaseExponent
  dsimp only
  rw [Nat.shiftLeft_eq]
  exact roundWithAccuracy_below _ (Int.le_trans (totalExponent_mul_pow _ _ _) hk) (by omega) hlo hhi

theorem normalize_below {x : Int} {e k : Int} (zs : Sign) (hk : totalExponent x.natAbs e ≤ k)
    (he : e ≤ 971) (hlo : -1074 ≤ k) (hhi : k ≤ 1023) :
    Below (k + 1) (UnpackedFloat.normalize Format.binary64 x e zs) := by
  unfold UnpackedFloat.normalize
  split
  · rename_i hlt
    have : (-x).toNat = x.natAbs := by have := compare_lt_iff_lt.1 hlt; omega
    rw [this]
    exact round_below hk he hlo hhi
  · trivial
  · rename_i hgt
    have : x.toNat = x.natAbs := by have := compare_gt_iff_gt.1 hgt; omega
    rw [this]
    exact round_below hk he hlo hhi

def BitsBelow (k : Int) (n : Nat) : Prop :=
  n / 2 ^ 52 % 2048 ≠ 2047 ∧ ((n / 2 ^ 52 % 2048 : Nat) : Int) - 1022 ≤ k

theorem unpack_below {k : Int} {b : BitVec 64} (hb : BitsBelow k b.toNat) :
    Below k (UnpackedFloat.unpack Format.binary64 b) := by
  obtain ⟨h2047, hfield⟩ := hb
  have hE := unpackExponent_toNat b
  simp only [Nat.shiftRight_eq_div_pow] at hE
  rcases unpack_cases b (by rw [hE]; exact h2047) with
    ⟨-, -, hu⟩ | ⟨h0, _, hlog, hu⟩ | ⟨-, _, hlog, hu⟩ <;> rw [hu]
  · trivial
  · -- subnormal: below the least normal exponent
    have h0' : (@unpackExponent Format.binary64 b).toNat = 0 := by rw [h0]; rfl
    refine ⟨?_, by omega⟩
    show ((@unpackMantissa Format.binary64 b).toNat.log2 : Int) + 1 + _ ≤ k
    omega
  · -- normal: the implicit bit on top of the mantissa field
    refine ⟨?_, by omega⟩
    show ((2 ^ 52 + (@unpackMantissa Format.binary64 b).toNat).log2 : Int) + 1 + _ ≤ k
    rw [hlog]
    omega

theorem field_of_components {sb E M : Nat} (hE : E < 2048) (hM : M < 2 ^ 52) :
    ((sb * 2 ^ 11 + E) * 2 ^ 52 + M) / 2 ^ 52 % 2048 = E := by
  rw [Nat.add_comm, Nat.add_mul_div_right _ _ (Nat.two_pow_pos 52), Nat.div_eq_of_lt hM,
    Nat.zero_add]
  omega

theorem pack_below {k : Int} {u : UnpackedFloat} (hu : Below k u) (hk : -1022 ≤ k) :
    BitsBelow k (UnpackedFloat.pack Format.binary64 u).toNat := by
  have hbias : Format.binary64.exponentBias = 1023 := rfl
  have hbits : Format.binary64.mantissaBits = 53 := rfl
  have z₁ : (0 : BitVec 11).toNat = 0 := rfl
  have z₂ : (0 : BitVec 52).toNat = 0 := rfl
  unfold BitsBelow
  cases u with
  | notANumber => exact hu.elim
  | infinity s => exact hu.elim
  | zero s =>
    have hs := (Sign.toBitVec s).isLt
    simp only [UnpackedFloat.pack, packedZero, packComponents_toNat, z₁, z₂]
    rw [field_of_components (by decide) (by decide)]
    exact ⟨by decide, by omega⟩
  | finite s m e hm =>
    obtain ⟨hte, he⟩ := hu
    have t₀ : totalExponent m e = m.log2 + 1 + e := rfl
    have hs := (Sign.toBitVec s).isLt
    unfold UnpackedFloat.pack
    simp only [hbias, hbits]
    rw [if_neg (by simp; omega)]
    split_ifs with hnormal
    · -- normal: the field is the biased exponent
      simp only [packComponents_toNat, BitVec.toNat_ofNat]
      rw [field_of_components (Nat.mod_lt _ (by decide)) (Nat.mod_lt _ (by decide))]
      refine ⟨by omega, by omega⟩
    · -- subnormal: the field is zero
      simp only [packComponents_toNat, BitVec.toNat_ofNat]
      rw [field_of_components (by decide) (Nat.mod_lt _ (by decide))]
      exact ⟨by decide, by omega⟩

theorem Below.mono {k k' : Int} {u : UnpackedFloat} (h : Below k u) (hk : k ≤ k') : Below k' u := by
  cases u with
  | zero => trivial
  | finite s m e hm => exact ⟨Int.le_trans h.1 hk, h.2⟩
  | _ => exact h.elim

theorem totalExponent_le_of_lt {a n : Nat} (e : Int) (h : a < 2 ^ n) (hn : 0 < n) :
    totalExponent a e ≤ n + e := by
  have t : totalExponent a e = a.log2 + 1 + e := rfl
  rcases Nat.eq_zero_or_pos a with rfl | ha
  · simp only [Nat.log2_zero] at t
    omega
  · have := (Nat.log2_lt (by omega)).2 h
    omega

theorem lt_pow_of_totalExponent {a : Nat} {e : Int} :
    a < 2 ^ (totalExponent a e - e).toNat := by
  have t : totalExponent a e = a.log2 + 1 + e := rfl
  rw [show (totalExponent a e - e).toNat = a.log2 + 1 by omega]
  exact Nat.lt_log2_self

theorem add_below {k₁ k₂ : Int} {a b : UnpackedFloat} (ha : Below k₁ a) (hb : Below k₂ b)
    (hlo : -1074 ≤ max k₁ k₂) (hhi : max k₁ k₂ ≤ 1022) :
    Below (max k₁ k₂ + 2) (UnpackedFloat.add Format.binary64 a b) := by
  cases a with
  | notANumber => exact ha.elim
  | infinity => exact ha.elim
  | zero s₁ =>
    cases b with
    | notANumber => exact hb.elim
    | infinity => exact hb.elim
    | zero s₂ => simp only [UnpackedFloat.add]; split <;> trivial
    | finite s₂ m₂ e₂ h₂ => exact hb.mono (by omega)
  | finite s₁ m₁ e₁ h₁ =>
    cases b with
    | notANumber => exact hb.elim
    | infinity => exact hb.elim
    | zero s₂ => exact ha.mono (by omega)
    | finite s₂ m₂ e₂ h₂ =>
      obtain ⟨hte₁, he₁⟩ := ha
      obtain ⟨hte₂, he₂⟩ := hb
      simp only [UnpackedFloat.add, decreaseExponent, Nat.shiftLeft_eq]
      -- both mantissas at the smaller exponent, each below its own top bit
      have hm₁ := Nat.mul_lt_mul_of_pos_right (lt_pow_of_totalExponent (a := m₁) (e := e₁))
        (Nat.two_pow_pos (e₁ - min e₁ e₂).toNat)
      have hm₂ := Nat.mul_lt_mul_of_pos_right (lt_pow_of_totalExponent (a := m₂) (e := e₂))
        (Nat.two_pow_pos (e₂ - min e₁ e₂).toNat)
      rw [← Nat.pow_add] at hm₁ hm₂
      have t₁ : totalExponent m₁ e₁ = m₁.log2 + 1 + e₁ := rfl
      have t₂ : totalExponent m₂ e₂ = m₂.log2 + 1 + e₂ := rfl
      generalize hT : (max k₁ k₂ + 1 - min e₁ e₂).toNat = T
      have hp₁ : 2 ^ ((totalExponent m₁ e₁ - e₁).toNat + (e₁ - min e₁ e₂).toNat) ≤ 2 ^ (T - 1) :=
        Nat.pow_le_pow_right (by decide) (by omega)
      have hp₂ : 2 ^ ((totalExponent m₂ e₂ - e₂).toNat + (e₂ - min e₁ e₂).toNat) ≤ 2 ^ (T - 1) :=
        Nat.pow_le_pow_right (by decide) (by omega)
      have hT1 : 2 ^ (T - 1) + 2 ^ (T - 1) = 2 ^ T := by
        rw [← Nat.two_mul, ← Nat.pow_succ']
        congr 1
        omega
      have hsum : (Sign.apply s₁ (m₁ * 2 ^ (e₁ - min e₁ e₂).toNat : Nat) +
          Sign.apply s₂ (m₂ * 2 ^ (e₂ - min e₁ e₂).toNat : Nat)).natAbs < 2 ^ T := by
        cases s₁ <;> cases s₂ <;> simp only [Sign.apply] <;> omega
      have hte : totalExponent (Sign.apply s₁ (m₁ * 2 ^ (e₁ - min e₁ e₂).toNat : Nat) +
          Sign.apply s₂ (m₂ * 2 ^ (e₂ - min e₁ e₂).toNat : Nat)).natAbs (min e₁ e₂) ≤
          max k₁ k₂ + 1 := by
        have := totalExponent_le_of_lt (min e₁ e₂) hsum (by omega)
        omega
      rw [show max k₁ k₂ + 2 = max k₁ k₂ + 1 + 1 by omega]
      exact normalize_below _ hte (by omega) (by omega) (by omega)

theorem neg_below {k : Int} {u : UnpackedFloat} (h : Below k u) : Below k u.neg := by
  cases u with
  | zero => trivial
  | finite s m e hm => exact h
  | _ => exact h.elim

theorem mul_below {k₁ k₂ : Int} {a b : UnpackedFloat} (ha : Below k₁ a) (hb : Below k₂ b)
    (hlo : -1074 ≤ k₁ + k₂) (hhi : k₁ + k₂ ≤ 973) :
    Below (k₁ + k₂ + 1) (UnpackedFloat.mul Format.binary64 a b) := by
  cases a with
  | notANumber => exact ha.elim
  | infinity => exact ha.elim
  | zero s₁ =>
    cases b with
    | zero s₂ => trivial
    | finite s₂ m₂ e₂ h₂ => trivial
    | _ => exact hb.elim
  | finite s₁ m₁ e₁ h₁ =>
    cases b with
    | zero s₂ => trivial
    | finite s₂ m₂ e₂ h₂ =>
      obtain ⟨hte₁, he₁⟩ := ha
      obtain ⟨hte₂, he₂⟩ := hb
      have t₁ : totalExponent m₁ e₁ = m₁.log2 + 1 + e₁ := rfl
      have t₂ : totalExponent m₂ e₂ = m₂.log2 + 1 + e₂ := rfl
      -- the product's mantissa is below the product of the two top bits
      have hprod : m₁ * m₂ < 2 ^ (m₁.log2 + 1 + (m₂.log2 + 1)) := by
        rw [Nat.pow_add]
        exact Nat.mul_lt_mul'' Nat.lt_log2_self Nat.lt_log2_self
      have hte := totalExponent_le_of_lt (e₁ + e₂) hprod (by omega)
      exact roundWithAccuracy_below _ (by omega) (by omega) hlo (by omega)
    | _ => exact hb.elim

theorem div_below {k l : Int} {a : UnpackedFloat} {s₂ : Sign} {m₂ : Nat} {e₂ : Int} (h₂ : 0 < m₂)
    (ha : Below k a) (hl : l ≤ totalExponent m₂ e₂) (hlo : -1074 ≤ k - l) (hhi : k - l ≤ 1021) :
    Below (k - l + 2) (UnpackedFloat.div Format.binary64 a (.finite s₂ m₂ e₂ h₂)) := by
  cases a with
  | notANumber => exact ha.elim
  | infinity => exact ha.elim
  | zero s₁ => trivial
  | finite s₁ m₁ e₁ h₁ =>
    obtain ⟨hte₁, he₁⟩ := ha
    simp only [UnpackedFloat.div, divCore, targetExponent_binary64, Nat.shiftLeft_eq]
    have t₁ : totalExponent m₁ e₁ = m₁.log2 + 1 + e₁ := rfl
    have t₂ : totalExponent m₂ e₂ = m₂.log2 + 1 + e₂ := rfl
    generalize hq : m₁ * 2 ^ (e₁ - e₂ - min (e₁ - e₂)
      (max (totalExponent m₁ e₁ - totalExponent m₂ e₂ - 53) (-1074))).toNat / m₂ = q
    generalize ht : min (e₁ - e₂) (max (totalExponent m₁ e₁ - totalExponent m₂ e₂ - 53) (-1074)) = t
      at hq
    generalize hs : (e₁ - e₂ - t).toNat = sh at hq
    have tq : totalExponent q t = q.log2 + 1 + t := rfl
    have hte : totalExponent q t ≤ k - l + 1 := by
      rcases Nat.eq_zero_or_pos q with rfl | hq0
      · simp only [Nat.log2_zero] at tq
        omega
      · -- the quotient's top bit and the divisor's fit below the dividend's
        have hle : 2 ^ (q.log2 + m₂.log2) ≤ m₁ * 2 ^ sh := by
          rw [Nat.pow_add]
          calc 2 ^ q.log2 * 2 ^ m₂.log2 ≤ q * m₂ :=
                Nat.mul_le_mul (Nat.log2_self_le (by omega)) (Nat.log2_self_le (by omega))
            _ ≤ m₁ * 2 ^ sh := by rw [← hq]; exact Nat.div_mul_le_self _ _
        have hlt : m₁ * 2 ^ sh < 2 ^ (m₁.log2 + 1 + sh) := by
          rw [Nat.pow_add]
          exact Nat.mul_lt_mul_of_pos_right Nat.lt_log2_self (Nat.two_pow_pos sh)
        have := (Nat.pow_lt_pow_iff_right (by decide : 1 < 2)).1 (Nat.lt_of_le_of_lt hle hlt)
        omega
    rw [show k - l + 2 = k - l + 1 + 1 by omega]
    exact roundWithAccuracy_below _ hte (by omega) (by omega) (by omega)

def FiniteBelow (k : Int) (x : Float) : Prop := BitsBelow k x.toBits.toNat

theorem FiniteBelow.unpack {k : Int} {x : Float} (h : FiniteBelow k x) : Below k x.toModel.unpack :=
  unpack_below h

theorem finiteBelow_pack {k : Int} {u : UnpackedFloat} (hu : Below k u) (hk : -1022 ≤ k) :
    FiniteBelow k (Float.ofModel (Float.Model.pack u)) :=
  pack_below hu hk

theorem FiniteBelow.add {k₁ k₂ : Int} {x y : Float} (hx : FiniteBelow k₁ x) (hy : FiniteBelow k₂ y)
    (hlo : -1022 ≤ max k₁ k₂) (hhi : max k₁ k₂ ≤ 1022) : FiniteBelow (max k₁ k₂ + 2) (x + y) :=
  finiteBelow_pack (add_below hx.unpack hy.unpack (by omega) hhi) (by omega)

theorem FiniteBelow.mul {k₁ k₂ : Int} {x y : Float} (hx : FiniteBelow k₁ x) (hy : FiniteBelow k₂ y)
    (hlo : -1022 ≤ k₁ + k₂) (hhi : k₁ + k₂ ≤ 973) : FiniteBelow (k₁ + k₂ + 1) (x * y) :=
  finiteBelow_pack (mul_below hx.unpack hy.unpack (by omega) hhi) (by omega)

theorem FiniteBelow.neg {k : Int} {x : Float} (hx : FiniteBelow k x) (hk : -1022 ≤ k) :
    FiniteBelow k (-x) :=
  finiteBelow_pack (neg_below hx.unpack) hk

theorem toFloat_below {n : Nat} (hn : n < 2 ^ 64) :
    FiniteBelow (n.log2 + 2) n.toUInt64.toFloat := by
  refine finiteBelow_pack ?_ (by omega)
  have hmod : (n.toUInt64.toNat : Int).natAbs = n := by
    rw [Nat.toUInt64_eq, UInt64.toNat_ofNat', Nat.mod_eq_of_lt hn]
    exact Int.natAbs_natCast n
  have hlog : n.log2 < 64 := by
    rcases Nat.eq_zero_or_pos n with rfl | hpos
    · simp
    · exact (Nat.log2_lt (by omega)).2 hn
  have t : totalExponent n 0 = n.log2 + 1 + 0 := rfl
  have hk : totalExponent (n.toUInt64.toNat : Int).natAbs 0 ≤ n.log2 + 1 := by
    rw [hmod, t]
    omega
  exact normalize_below _ hk (by decide) (by omega) (by omega)

theorem FiniteBelow.mono {k k' : Int} {x : Float} (h : FiniteBelow k x) (hk : k ≤ k') :
    FiniteBelow k' x :=
  ⟨h.1, Int.le_trans h.2 hk⟩

theorem ofNat_eq {n : Nat} (h : n < 2 ^ 53) :
    Float.ofNat n = n.toUInt64.toFloat * Float.ofBits 0x3FF0000000000000 := by
  simp only [Float.ofNat, OfScientific.ofScientific, Float.ofScientific]
  rw [dif_pos ⟨h, by decide⟩]
  rfl

theorem ofNat_below {n : Nat} (h : n < 2 ^ 53) : FiniteBelow (n.log2 + 4) (Float.ofNat n) := by
  have hone : FiniteBelow 1 (Float.ofBits 0x3FF0000000000000) := ⟨by decide, by decide⟩
  have hlog : n.log2 < 53 := by
    rcases Nat.eq_zero_or_pos n with rfl | hpos
    · simp
    · exact (Nat.log2_lt (by omega)).2 h
  rw [ofNat_eq h, show (n.log2 + 4 : Int) = n.log2 + 2 + 1 + 1 by omega]
  exact (toFloat_below (by omega)).mul hone (by omega) (by omega)

theorem ofInt_below {v : Int} (h : v.natAbs < 2 ^ 53) :
    FiniteBelow (v.natAbs.log2 + 4) (Float.ofInt v) := by
  cases v with
  | ofNat n => exact ofNat_below h
  | negSucc n => exact (ofNat_below h).neg (by omega)

theorem hundred_unpack :
    (100 : Float).toModel.unpack = .finite .positive 7036874417766400 (-46) (by decide) :=
  rfl

theorem FiniteBelow.div_hundred {k : Int} {x : Float} (hx : FiniteBelow k x) (hlo : -1015 ≤ k)
    (hhi : k ≤ 1028) : FiniteBelow (k - 7 + 2) (x / 100) := by
  have hlog : (7036874417766400 : Nat).log2 = 52 :=
    (Nat.log2_eq_iff (by decide)).2 ⟨by decide, by decide⟩
  have hte : (7 : Int) ≤ totalExponent 7036874417766400 (-46) := by
    show (7 : Int) ≤ (7036874417766400 : Nat).log2 + 1 + -46
    rw [hlog]
    decide
  show FiniteBelow _ (Float.ofModel (Float.Model.pack
    (UnpackedFloat.div Format.binary64 x.toModel.unpack (100 : Float).toModel.unpack)))
  rw [hundred_unpack]
  exact finiteBelow_pack (div_below _ hx.unpack hte (by omega) (by omega)) (by omega)

theorem shape_of_finiteBelow {k : Int} {x : Float} (h : FiniteBelow k x) (hk : -1021 ≤ k) :
    ∃ neg m e, shape x = .finite neg m e ∧ e + 53 ≤ k := by
  obtain ⟨h2047, hfield⟩ := h
  unfold shape
  simp only [Nat.pow_eq, beq_iff_eq, Nat.shiftRight_eq_div_pow]
  rw [if_neg h2047]
  split
  · exact ⟨_, _, _, rfl, by unfold minExp; omega⟩
  · exact ⟨_, _, _, rfl, by omega⟩

theorem hundredths_below {v : Int} {h : Nat} (hv : v.natAbs < 128) (hh : h < 128) :
    FiniteBelow 12 (Float.ofInt v + Float.ofNat h / 100) := by
  have lv : v.natAbs.log2 < 7 := by
    rcases Nat.eq_zero_or_pos v.natAbs with h0 | hpos
    · rw [h0]; decide
    · exact (Nat.log2_lt (by omega)).2 hv
  have lh : h.log2 < 7 := by
    rcases Nat.eq_zero_or_pos h with rfl | hpos
    · decide
    · exact (Nat.log2_lt (by omega)).2 hh
  have hx : FiniteBelow 10 (Float.ofInt v) := (ofInt_below (by omega)).mono (by omega)
  have hy : FiniteBelow 5 (Float.ofNat h / 100) :=
    (((ofNat_below (by omega)).mono (by omega : (h.log2 + 4 : Int) ≤ 10)).div_hundred
      (by decide) (by decide)).mono (by decide)
  exact (hx.add hy (by decide) (by decide)).mono (by decide)

end LiveArith.Binary64
