import Mathlib
import LiveArith.Proofs.Number.Rounding

/-!
The bits of a double and the number they stand for. A double read from bits keeps them, unless they
spell a not-a-number, which reads as the one not-a-number of the logic (`toBits_ofBits`).
-/

set_option autoImplicit false

namespace LiveArith.Binary64

open Float.Model UnpackedFloat

section pack

variable (b : BitVec 64)

theorem unpackMantissa_toNat : (@unpackMantissa Format.binary64 b).toNat = b.toNat % 2 ^ 52 := by
  simp [unpackMantissa]

theorem unpackExponent_toNat :
    (@unpackExponent Format.binary64 b).toNat = (b.toNat >>> 52) % 2 ^ 11 := by
  simp [unpackExponent]

theorem unpackSign_toNat : (@unpackSign Format.binary64 b).toNat = (b.toNat >>> 63) % 2 := by
  simp [unpackSign]

theorem toBitVec_ofBitVec (s : BitVec 1) : (Sign.ofBitVec s).toBitVec = s := by
  unfold Sign.ofBitVec
  split_ifs with h
  · exact h.symm
  · have hs : s.toNat < 2 := s.isLt
    have h0 : s.toNat ≠ 0 := fun h' => h (BitVec.eq_of_toNat_eq (by simpa using h'))
    exact BitVec.eq_of_toNat_eq (by simp [Sign.toBitVec]; omega)

theorem packComponents_toNat (s : Sign) (e : BitVec 11) (m : BitVec 52) :
    (packComponents Format.binary64 s e m).toNat = (s.toBitVec.toNat * 2 ^ 11 + e.toNat) * 2 ^ 52 + m.toNat := by
  simp only [packComponents, BitVec.toNat_append]
  rw [← Nat.shiftLeft_add_eq_or_of_lt m.isLt, ← Nat.shiftLeft_add_eq_or_of_lt e.isLt]
  simp only [Nat.shiftLeft_eq]

theorem packComponents_unpack :
    packComponents Format.binary64 (Sign.ofBitVec (@unpackSign Format.binary64 b))
      (@unpackExponent Format.binary64 b) (@unpackMantissa Format.binary64 b) = b := by
  apply BitVec.eq_of_toNat_eq
  rw [packComponents_toNat, toBitVec_ofBitVec, unpackMantissa_toNat, unpackExponent_toNat,
    unpackSign_toNat]
  have hb := b.isLt
  simp only [Nat.shiftRight_eq_div_pow] at *
  omega

theorem unpack_cases (h : (@unpackExponent Format.binary64 b).toNat ≠ 2047) :
    (@unpackExponent Format.binary64 b = 0#11 ∧ @unpackMantissa Format.binary64 b = 0#52 ∧
      unpack Format.binary64 b = .zero (Sign.ofBitVec (@unpackSign Format.binary64 b))) ∨
    (@unpackExponent Format.binary64 b = 0#11 ∧
      ∃ hm, (@unpackMantissa Format.binary64 b).toNat.log2 < 52 ∧
        unpack Format.binary64 b = .finite (Sign.ofBitVec (@unpackSign Format.binary64 b))
          (@unpackMantissa Format.binary64 b).toNat (-1074) hm) ∨
    ((@unpackExponent Format.binary64 b).toNat ≠ 0 ∧
      ∃ hm, (2 ^ 52 + (@unpackMantissa Format.binary64 b).toNat).log2 = 52 ∧
        unpack Format.binary64 b = .finite (Sign.ofBitVec (@unpackSign Format.binary64 b))
          (2 ^ 52 + (@unpackMantissa Format.binary64 b).toNat)
          ((@unpackExponent Format.binary64 b).toNat - 1075) hm) := by
  have hne : @unpackExponent Format.binary64 b ≠ -1#11 := fun h' => h (by rw [h']; rfl)
  have hM : (@unpackMantissa Format.binary64 b).toNat < 2 ^ 52 := BitVec.isLt _
  unfold UnpackedFloat.unpack
  dsimp only
  rw [if_neg hne]
  split_ifs with h0 hm
  · exact .inl ⟨h0, hm, rfl⟩
  · -- subnormal: the mantissa has fewer than 53 bits
    have h0' : (@unpackExponent Format.binary64 b).toNat = 0 := by rw [h0]; rfl
    have hpos : (@unpackMantissa Format.binary64 b).toNat ≠ 0 :=
      fun h' => hm (BitVec.eq_of_toNat_eq (by simpa using h'))
    refine .inr (.inl ⟨h0, Nat.pos_of_ne_zero hpos, (Nat.log2_lt hpos).2 hM, ?_⟩)
    congr 1
    rw [h0']
    rfl
  · -- normal: the implicit bit on top of the mantissa field
    have hE0 : (@unpackExponent Format.binary64 b).toNat ≠ 0 :=
      fun h' => h0 (BitVec.eq_of_toNat_eq (by rw [h']; rfl))
    have happ : (1#1 ++ @unpackMantissa Format.binary64 b).toNat =
        2 ^ 52 + (@unpackMantissa Format.binary64 b).toNat := by
      rw [BitVec.toNat_append, ← Nat.shiftLeft_add_eq_or_of_lt hM]
      simp [Nat.shiftLeft_eq]
    have hlog : (2 ^ 52 + (@unpackMantissa Format.binary64 b).toNat).log2 = 52 :=
      (Nat.log2_eq_iff (by positivity)).2 ⟨by omega, by omega⟩
    refine .inr (.inr ⟨hE0, by omega, hlog, ?_⟩)
    congr 1

theorem pack_unpack (h : (@unpackExponent Format.binary64 b).toNat ≠ 2047) :
    UnpackedFloat.pack Format.binary64 (UnpackedFloat.unpack Format.binary64 b) = b := by
  conv_rhs => rw [← packComponents_unpack b]
  have hbias : Format.binary64.exponentBias = 1023 := rfl
  have hbits : Format.binary64.mantissaBits = 53 := rfl
  have hE : (@unpackExponent Format.binary64 b).toNat < 2048 := BitVec.isLt _
  have hM : (@unpackMantissa Format.binary64 b).toNat < 2 ^ 52 := BitVec.isLt _
  rcases unpack_cases b h with ⟨h0, hm, hu⟩ | ⟨h0, _, hlog, hu⟩ | ⟨hE0, _, hlog, hu⟩ <;> rw [hu]
  · simp only [UnpackedFloat.pack, packedZero, h0, hm]
    rfl
  · -- subnormal: the exponent field stays zero
    simp only [UnpackedFloat.pack, hbias, hbits]
    rw [if_neg (by decide), if_neg (by omega), BitVec.ofNat_toNat, BitVec.setWidth_eq, h0]
  · -- normal: the implicit bit comes back off the mantissa
    simp only [UnpackedFloat.pack, hbias, hbits, hlog]
    rw [if_neg (by omega), if_pos trivial]
    congr 1
    · apply BitVec.eq_of_toNat_eq
      simp
      omega
    · apply BitVec.eq_of_toNat_eq
      simpa using hM

end pack

theorem toBitVec_toNat (v : UInt64) : v.toBitVec.toNat = v.toNat := rfl

theorem toBits_ofBits {v : UInt64} (h : (v.toNat >>> 52) % 2048 ≠ 2047) :
    (Float.ofBits v).toBits = v := by
  have hE : (@unpackExponent Format.binary64 v.toBitVec).toNat ≠ 2047 := by
    rw [unpackExponent_toNat, toBitVec_toNat]
    exact h
  show UInt64.ofBitVec (UnpackedFloat.pack Format.binary64
    (UnpackedFloat.unpack Format.binary64 v.toBitVec)) = v
  rw [pack_unpack _ hE]

theorem eq_ofMagnitude {x : UInt64} {neg : Bool} {n : ℕ}
    (h : x.toNat = n + if neg then 2 ^ 63 else 0) : x = ofMagnitude neg n := by
  unfold ofMagnitude
  apply UInt64.toNat_inj.1
  rw [UInt64.toNat_ofNat', Nat.pow_eq, ← h, Nat.mod_eq_of_lt x.toNat_lt]

theorem shape_finite {x : Float} {neg : Bool} {m : ℕ} {e : ℤ}
    (h : shape x = .finite neg m e) :
    x.toBits = ofMagnitude neg ((e - minExp).toNat * 2 ^ 52 + m) ∧
      ((m = 0 ∧ e = minExp) ∨ Canonical m e) := by
  have hb := x.toBits.toNat_lt
  unfold shape at h
  simp only [Nat.pow_eq, beq_iff_eq, Nat.shiftRight_eq_div_pow] at h
  generalize hx : x.toBits.toNat = b at h hb
  -- the sign bit is the top one
  have hsign : ∀ n, b = n + (if (b / 2 ^ 63 == 1) = true then 2 ^ 63 else 0) →
      x.toBits = ofMagnitude (b / 2 ^ 63 == 1) n := fun n hn => eq_ofMagnitude (hx ▸ hn)
  by_cases h1 : b / 2 ^ 52 % 2048 = 2047
  · rw [if_pos h1] at h
    split_ifs at h
  rw [if_neg h1] at h
  by_cases h2 : b / 2 ^ 52 % 2048 = 0
  · -- subnormal or zero: the least exponent
    rw [if_pos h2] at h
    simp only [Shape.finite.injEq] at h
    obtain ⟨rfl, rfl, rfl⟩ := h
    refine ⟨hsign _ ?_, ?_⟩
    · simp only [sub_self, Int.toNat_zero, zero_mul, zero_add]
      split_ifs with hs <;> simp at hs <;> omega
    · by_cases hm0 : b % 2 ^ 52 = 0
      · exact .inl ⟨hm0, rfl⟩
      · exact .inr ⟨by omega, by omega, le_rfl, by decide, .inr rfl⟩
  · -- normal: the implicit bit above the mantissa field
    rw [if_neg h2] at h
    simp only [Shape.finite.injEq] at h
    obtain ⟨rfl, rfl, rfl⟩ := h
    refine ⟨hsign _ ?_, .inr ⟨by omega, by omega, ?_, ?_, .inl (by omega)⟩⟩
    · unfold minExp
      rw [show ((b / 2 ^ 52 % 2048 : ℕ) : ℤ) - 1075 - -1074 = ((b / 2 ^ 52 % 2048 - 1 : ℕ) : ℤ) by omega,
        Int.toNat_natCast]
      split_ifs with hs <;> simp at hs <;> omega
    · unfold minExp
      omega
    · omega

end LiveArith.Binary64
