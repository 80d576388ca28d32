import LiveArith.Proofs.Engine.Hits

/-!
The bytes the structural hash reads determine the expression up to its spans.
-/

set_option autoImplicit false

namespace LiveArith

namespace Op

def Byte (op : Op) : Prop := op.code < 256 ∧ Op.ofCode op.code = op

instance (op : Op) : Decidable op.Byte := inferInstanceAs (Decidable (_ ∧ _))

theorem code_ofCode (n : Nat) : (Op.ofCode n).code = n := by
  unfold Op.ofCode
  split <;> rfl

theorem byte_ofCode {n : Nat} (h : n < 256) : (Op.ofCode n).Byte :=
  ⟨by rw [code_ofCode]; exact h, by rw [code_ofCode]⟩

theorem eq_of_toUInt8 {a b : Op} (ha : a.Byte) (hb : b.Byte)
    (h : a.code.toUInt8 = b.code.toUInt8) : a = b := by
  have hn : a.code % 256 = b.code % 256 := by simpa using congrArg UInt8.toNat h
  rw [Nat.mod_eq_of_lt ha.1, Nat.mod_eq_of_lt hb.1] at hn
  rw [← ha.2, ← hb.2, hn]

end Op

namespace Expr

def Filled : Expr → Prop
  | .hole => False
  | .int .. | .float .. => True
  | .paren _ e => e.Filled
  | .binary _ l op r => op.Byte ∧ l.Filled ∧ r.Filled

theorem wordBytes_toNat (x : UInt64) :
    (wordBytes x).map UInt8.toNat = (List.range 8).map fun k => x.toNat >>> (8 * k) % 256 := by
  simp only [wordBytes, List.map_map]
  refine List.map_congr_left fun k hk => ?_
  have hk : k < 8 := List.mem_range.1 hk
  simp [UInt64.toNat_shiftRight, Nat.mod_eq_of_lt (show 8 * k < 64 by omega)]

theorem length_wordBytes (x : UInt64) : (wordBytes x).length = 8 := by
  simp [wordBytes]

theorem eq_of_base256_digits {n a b : Nat} (ha : a < 256 ^ n) (hb : b < 256 ^ n)
    (h : ∀ k < n, a / 256 ^ k % 256 = b / 256 ^ k % 256) : a = b := by
  induction n generalizing a b with
  | zero => simp only [Nat.pow_zero] at ha hb; omega
  | succ n ih =>
    -- the lowest digit, then the rest read one place down
    have hlow := h 0 (by omega)
    have hhigh : a / 256 = b / 256 := by
      refine ih (by rw [Nat.div_lt_iff_lt_mul (by decide), ← Nat.pow_succ]; exact ha)
        (by rw [Nat.div_lt_iff_lt_mul (by decide), ← Nat.pow_succ]; exact hb) fun k hk => ?_
      have hk' := h (k + 1) (by omega)
      rwa [Nat.pow_succ', ← Nat.div_div_eq_div_mul, ← Nat.div_div_eq_div_mul] at hk'
    simp only [Nat.pow_zero, Nat.div_one] at hlow
    omega

theorem wordBytes_inj {x y : UInt64} (h : wordBytes x = wordBytes y) : x = y := by
  have hn := congrArg (List.map UInt8.toNat) h
  rw [wordBytes_toNat, wordBytes_toNat, List.map_inj_left] at hn
  have hx : x.toNat < 256 ^ 8 := x.toNat_lt
  have hy : y.toNat < 256 ^ 8 := y.toNat_lt
  -- eight digits in base 256 give back a number below 2^64
  refine UInt64.toNat_inj.1 (eq_of_base256_digits hx hy fun k hk => ?_)
  have hk' := hn k (List.mem_range.2 hk)
  rwa [Nat.shiftRight_eq_div_pow, Nat.shiftRight_eq_div_pow, Nat.pow_mul] at hk'

theorem wordBytes_append_inj {x y : UInt64} {u v : List UInt8}
    (h : wordBytes x ++ u = wordBytes y ++ v) : x = y ∧ u = v := by
  obtain ⟨hw, huv⟩ := List.append_inj h (by rw [length_wordBytes, length_wordBytes])
  exact ⟨wordBytes_inj hw, huv⟩

theorem encode_append_inj {a b : Expr} (ha : a.Filled) (hb : b.Filled) {u v : List UInt8}
    (h : a.encode ++ u = b.encode ++ v) : a.erase = b.erase ∧ u = v := by
  induction a generalizing b u v with
  | hole => cases ha
  | int sp x =>
    cases b
    case int sp' y =>
      simp only [encode, List.cons_append, List.cons.injEq, true_and] at h
      obtain ⟨hxy, huv⟩ := wordBytes_append_inj h
      -- an integer is written as the word of its two's complement bits
      have hx : x = y := by
        cases x
        cases y
        exact congrArg Int64.ofUInt64 hxy
      exact ⟨by rw [erase, erase, hx], huv⟩
    case hole => cases hb
    all_goals simp [encode] at h
  | float sp x =>
    cases b
    case float sp' y =>
      simp only [encode, List.cons_append, List.cons.injEq, true_and] at h
      obtain ⟨rfl, huv⟩ := wordBytes_append_inj h
      exact ⟨rfl, huv⟩
    case hole => cases hb
    all_goals simp [encode] at h
  | binary sp l op r ihl ihr =>
    cases b
    case binary sp' l' op' r' =>
      simp only [encode, List.cons_append, List.append_assoc, List.cons.injEq, true_and] at h
      obtain ⟨hop, h⟩ := h
      -- the left operand ends where the right one starts, and the right one where the rest does
      obtain ⟨hl, h⟩ := ihl ha.2.1 (show l'.Filled from hb.2.1) h
      obtain ⟨hr, huv⟩ := ihr ha.2.2 (show r'.Filled from hb.2.2) h
      rw [Op.eq_of_toUInt8 ha.1 hb.1 hop] at *
      exact ⟨by rw [erase, erase, hl, hr], huv⟩
    case hole => cases hb
    all_goals simp [encode] at h
  | paren sp e ih =>
    cases b
    case paren sp' e' =>
      simp only [encode, List.cons_append, List.cons.injEq, true_and] at h
      obtain ⟨he, huv⟩ := ih ha (show e'.Filled from hb) h
      exact ⟨by rw [erase, erase, he], huv⟩
    case hole => cases hb
    all_goals simp [encode] at h

/-- **The hashed bytes encode an expression's structure exactly.** For expressions with no
absent part and operators a byte holds (any literals, any float bit patterns), the encodings are
equal exactly when the expressions are the same up to spans; expressions that are the same hash
alike whatever their spans; and two expressions that are not the same share a hash only when
XXH3 maps their two different encodings to one value. -/
theorem encode_eq_iff_same {a b : Expr} (ha : a.Filled) (hb : b.Filled) :
    (a.encode = b.encode ↔ a.same b = true) ∧ (a.same b = true → a.hash = b.hash) ∧
      (a.hash = b.hash → a.same b = false →
        a.encode ≠ b.encode ∧ Xxh3.hashList a.encode = Xxh3.hashList b.encode) := by
  have hiff : a.encode = b.encode ↔ a.same b = true := by
    constructor
    · intro h
      refine same_iff.2 (encode_append_inj ha hb (u := []) (v := []) ?_).1
      rw [List.append_nil, List.append_nil, h]
    · intro h
      rw [← encode_erase a, ← encode_erase b, same_iff.1 h]
  refine ⟨hiff, hash_of_same, fun hh hs => ⟨fun he => ?_, hh⟩⟩
  rw [hiff.1 he] at hs
  cases hs

/-- Zero and negative zero: literals that compare equal as numbers but not by their bits, inside
operations whose spans differ. -/
theorem encode_eq_iff_same_signed_zero :
    let a := Expr.binary ⟨0, 5⟩ (.float ⟨0, 3⟩ 0) (.ofCode 1) (.paren ⟨6, 3⟩ (.int ⟨7, 1⟩ 1))
    let b := Expr.binary {} (.float {} 0x8000000000000000) (.ofCode 1) (.paren {} (.int {} 1))
    a.Filled ∧ b.Filled ∧
      ((a.encode = b.encode ↔ a.same b = true) ∧ (a.same b = true → a.hash = b.hash) ∧
        (a.hash = b.hash → a.same b = false →
          a.encode ≠ b.encode ∧ Xxh3.hashList a.encode = Xxh3.hashList b.encode)) := by
  intro a b
  have ha : a.Filled := ⟨Op.byte_ofCode (by decide), trivial, trivial⟩
  have hb : b.Filled := ⟨Op.byte_ofCode (by decide), trivial, trivial⟩
  exact ⟨ha, hb, encode_eq_iff_same ha hb⟩

end Expr

end LiveArith
