import Mathlib
import LiveArith.Proofs.Number.Bits
import LiveArith.Proofs.Number.Shortest
import LiveArith.Expr.Print
import LiveArith.Number.FloatSyntax

/-!
The text of a finite float literal reads back as the double it was printed from. The literal is
positional: the whole part's digits, a point, and the fraction's digits (`positional_split`), a lone
`0` after the point when the digits need no places.
-/

set_option autoImplicit false

namespace LiveArith.FloatSyntax

open Binary64 Shortest

def digitChars (ds : List ℕ) : List Char := ds.map fun d => Char.ofNat (d + '0'.toNat)

@[simp] theorem digitChars_nil : digitChars [] = [] := rfl

@[simp] theorem digitChars_append (a b : List ℕ) :
    digitChars (a ++ b) = digitChars a ++ digitChars b := List.map_append

@[simp] theorem length_digitChars (ds : List ℕ) : (digitChars ds).length = ds.length :=
  List.length_map _

theorem digitChars_cons (d : ℕ) (ds : List ℕ) :
    digitChars (d :: ds) = Char.ofNat (d + '0'.toNat) :: digitChars ds := rfl

theorem digitChars_replicate_zero (k : ℕ) : digitChars (List.replicate k 0) = List.replicate k '0' := by
  simp [digitChars, List.map_replicate]

theorem toList_chars (ds : List ℕ) : (Layout.chars ds).toList = digitChars ds := by
  simp [Layout.chars, digitChars]

theorem digit_char : ∀ d, d < 10 →
    (Char.ofNat (d + '0'.toNat) == '_') = false ∧ (Char.ofNat (d + '0'.toNat) == '.') = false ∧
    ('0' ≤ Char.ofNat (d + '0'.toNat) && Char.ofNat (d + '0'.toNat) ≤ '9') = true ∧
    (Char.ofNat (d + '0'.toNat)).toNat - '0'.toNat = d ∧
    Char.ofNat (d + '0'.toNat) ≠ '+' ∧ Char.ofNat (d + '0'.toNat) ≠ '-' ∧
    ((Char.ofNat (d + '0'.toNat)).toLower == 'x') = false ∧
    ((Char.ofNat (d + '0'.toNat)).toLower == 'i') = false ∧
    (Char.ofNat (d + '0'.toNat) == 'i' || Char.ofNat (d + '0'.toNat) == 'I') = false ∧
    (Char.ofNat (d + '0'.toNat) == 'n' || Char.ofNat (d + '0'.toNat) == 'N') = false := by
  decide

theorem whole_zeros_append (k : ℕ) (ds : List ℕ) : whole (List.replicate k 0 ++ ds) = whole ds := by
  rw [whole_append, whole_replicate_zero, zero_mul, zero_add]

theorem frac_eq (ds : List ℕ) (P : ℤ) :
    (List.range (ds.length - P).toNat).map (fun i : ℕ =>
        if (0 ≤ P + i && P + i < ds.length) = true then ds.getD (P + i).toNat 0 else 0) =
      (List.replicate (-P).toNat 0 ++ ds).drop P.toNat := by
  apply List.ext_getElem
  · simp only [List.length_map, List.length_range, List.length_drop, List.length_append,
      List.length_replicate]
    omega
  · intro i h1 h2
    simp only [List.getElem_map, List.getElem_range, List.getElem_drop]
    rw [List.getElem_append]
    simp only [List.length_replicate, List.getElem_replicate, Bool.and_eq_true, decide_eq_true_eq]
    split_ifs with hin hlt hlt
    · omega
    · rw [List.getD_eq_getElem _ _ (by omega)]
      congr 1
      omega
    · rfl
    · simp only [List.length_map, List.length_range] at h1
      omega

def wholeDigits (d : Digits) : List ℕ :=
  if 0 < d.point then
    d.digits.take d.point.toNat ++ List.replicate (d.point.toNat - d.digits.length) 0
  else [0]

def fracDigits (d : Digits) : List ℕ :=
  (List.replicate (-d.point).toNat 0 ++ d.digits).drop d.point.toNat

theorem length_fracDigits (d : Digits) :
    (fracDigits d).length = (d.digits.length - d.point).toNat := by
  simp only [fracDigits, List.length_drop, List.length_append, List.length_replicate]
  omega

theorem positional_toList (d : Digits) :
    (Layout.positional d (d.digits.length - d.point).toNat).toList =
      digitChars (wholeDigits d) ++
        (if fracDigits d = [] then [] else '.' :: digitChars (fracDigits d)) := by
  have hF : (fracDigits d = []) ↔ (d.digits.length - d.point).toNat = 0 := by
    rw [← List.length_eq_zero_iff, length_fracDigits]
  unfold Layout.positional
  dsimp only
  rw [frac_eq, ← fracDigits]
  -- the whole part is the digits before the point, padded with zeros, or a lone zero
  have hW : (if d.point > 0 then Layout.chars (d.digits.take d.point.toNat) ++
      String.ofList (List.replicate (d.point.toNat - d.digits.length) '0') else "0").toList =
      digitChars (wholeDigits d) := by
    unfold wholeDigits
    split_ifs with h
    · simp [toList_chars, digitChars_replicate_zero]
    · rfl
  by_cases h0 : (d.digits.length - d.point).toNat = 0
  · rw [if_pos (by simpa using h0), if_pos (hF.2 h0), List.append_nil]
    exact hW
  · rw [if_neg (by simpa using h0), if_neg (fun h => h0 (hF.1 h))]
    simp [hW, toList_chars]

theorem wholeDigits_ne_nil (d : Digits) : wholeDigits d ≠ [] := by
  unfold wholeDigits
  split_ifs with h
  · simp only [ne_eq, List.append_eq_nil_iff, List.take_eq_nil_iff, List.replicate_eq_nil_iff,
      not_and]
    intro h1 h2
    rcases h1 with h1 | h1
    · omega
    · rw [h1, List.length_nil] at h2
      omega
  · simp

theorem length_wholeDigits (d : Digits) : (wholeDigits d).length = max d.point.toNat 1 := by
  unfold wholeDigits
  split_ifs with h
  · simp only [List.length_append, List.length_take, List.length_replicate]
    omega
  · simp only [List.length_singleton]
    omega

theorem mem_split {d : Digits} {x : ℕ} (h : x ∈ wholeDigits d ++ fracDigits d) :
    x ∈ d.digits ∨ x = 0 := by
  rcases List.mem_append.1 h with h | h
  · unfold wholeDigits at h
    split_ifs at h
    · rcases List.mem_append.1 h with h | h
      · exact .inl (List.mem_of_mem_take h)
      · exact .inr (List.mem_replicate.1 h).2
    · exact .inr (List.mem_singleton.1 h)
  · unfold fracDigits at h
    rcases List.mem_append.1 (List.mem_of_mem_drop h) with h | h
    · exact .inr (List.mem_replicate.1 h).2
    · exact .inl h

theorem split_value (d : Digits) :
    (whole (wholeDigits d ++ fracDigits d) : ℚ) * 10 ^ (-((fracDigits d).length : ℤ)) =
      d.value := by
  rw [Digits.value, length_fracDigits]
  unfold wholeDigits fracDigits
  split_ifs with h
  · -- the point after the first digit: the digits, padded with zeros up to the point
    have hneg : (-d.point).toNat = 0 := by omega
    rw [hneg, List.replicate_zero, List.nil_append]
    by_cases hn : d.digits.length ≤ d.point.toNat
    · rw [List.take_of_length_le hn, List.drop_of_length_le hn, List.append_nil, whole_append,
        whole_replicate_zero, add_zero, show (d.digits.length - d.point).toNat = 0 by omega,
        List.length_replicate, Nat.cast_mul, Nat.cast_pow, Nat.cast_ofNat, Nat.cast_zero, neg_zero,
        zpow_zero, mul_one, ← zpow_natCast,
        show (((d.point.toNat - d.digits.length : ℕ)) : ℤ) = d.point - d.digits.length by omega]
    · rw [show d.point.toNat - d.digits.length = 0 by omega, List.replicate_zero, List.append_nil,
        List.take_append_drop]
      congr 2
      omega
  · -- the point before the digits: a zero, the zeros up to the digits, then the digits
    rw [show d.point.toNat = 0 by omega, List.drop_zero, List.singleton_append, ← List.cons_append,
      ← List.replicate_succ, whole_zeros_append]
    congr 2
    omega

/-- The scan has read the digits `L` in `u` characters, `a` of the digits since the point when it
has seen one, and kept every significant digit. -/
structure Scanned (st : Scan) (L : List ℕ) (u a : ℕ) : Prop where
  mant : st.mant = whole L
  kept : st.kept = st.nd
  nd_le : st.nd ≤ L.length
  zeros : st.nd = 0 → whole L = 0
  sticky : st.sticky = false
  underscores : st.underscores = false
  used : st.used = u
  sawDigits : st.sawDigits = !L.isEmpty
  point : st.sawDot = true → st.dp + a = st.nd

theorem scanned_init : Scanned {} [] 0 0 :=
  ⟨rfl, rfl, le_rfl, fun _ => rfl, rfl, rfl, rfl, rfl, fun h => absurd h (by decide)⟩

theorem scanDigits_digit {st : Scan} {L : List ℕ} {u a d : ℕ} (h : Scanned st L u a) (hd : d < 10)
    (hL : L.length < keep) (rest : List Char) :
    ∃ st', scanDigits 10 (Char.ofNat (d + '0'.toNat) :: rest) st = scanDigits 10 rest st' ∧
      Scanned st' (L ++ [d]) (u + 1) (a + 1) ∧ st'.sawDot = st.sawDot := by
  obtain ⟨h1, h2, h3, h4, -⟩ := digit_char d hd
  rw [scanDigits]
  simp only [h1, h2, h3, h4, Bool.false_eq_true, if_false, if_true]
  have hkept : st.kept < keep := by
    rw [h.kept]
    exact lt_of_le_of_lt h.nd_le hL
  have hone : whole [d] = d := by simp [whole]
  by_cases hz : d = 0 ∧ st.nd = 0
  · -- a leading zero: the value stays zero and the point moves
    rw [if_pos (by simp [hz.1, hz.2])]
    have hw : whole (L ++ [d]) = 0 := by rw [whole_append, h.zeros hz.2, hone, hz.1, zero_mul]
    refine ⟨_, rfl, ⟨?_, h.kept, ?_, fun _ => hw, h.sticky, h.underscores, by rw [h.used], by simp,
      fun hdot => ?_⟩, rfl⟩
    · rw [hw, h.mant]
      exact h.zeros hz.2
    · have := h.nd_le
      simp only [List.length_append, List.length_singleton]
      omega
    · have := h.point hdot
      push_cast
      omega
  · -- a significant digit, kept
    rw [if_neg (by simpa [not_and_or] using hz), if_pos hkept]
    refine ⟨_, rfl, ⟨?_, by simp [h.kept], ?_, fun h0 => by simp at h0, h.sticky, h.underscores,
      by simp [h.used], by simp, fun hdot => ?_⟩, rfl⟩
    · simp only [h.mant, whole_append, hone, List.length_singleton, pow_one]
    · have := h.nd_le
      simp only [List.length_append, List.length_singleton]
      omega
    · have := h.point hdot
      push_cast
      omega

theorem scanDigits_digits {ds : List ℕ} (hd : ∀ x ∈ ds, x < 10) :
    ∀ {st : Scan} {L : List ℕ} {u a : ℕ}, Scanned st L u a → L.length + ds.length ≤ keep →
      ∀ rest, ∃ st', scanDigits 10 (digitChars ds ++ rest) st = scanDigits 10 rest st' ∧
        Scanned st' (L ++ ds) (u + ds.length) (a + ds.length) ∧ st'.sawDot = st.sawDot := by
  induction ds with
  | nil =>
    intro st L u a h _ rest
    exact ⟨st, rfl, by simpa using h, rfl⟩
  | cons d ds ih =>
    intro st L u a h hlen rest
    simp only [List.length_cons] at hlen
    obtain ⟨st1, e1, h1, p1⟩ :=
      scanDigits_digit h (hd d (List.mem_cons_self ..)) (by omega) (digitChars ds ++ rest)
    obtain ⟨st2, e2, h2, p2⟩ :=
      ih (fun x hx => hd x (List.mem_cons_of_mem _ hx)) h1 (by simp; omega) rest
    refine ⟨st2, by rw [digitChars_cons, List.cons_append, e1, e2], ?_, p2.trans p1⟩
    rw [List.append_assoc, List.singleton_append, add_assoc, add_assoc, add_comm 1] at h2
    simpa using h2

theorem scanDigits_point {st : Scan} {L : List ℕ} {u a : ℕ} (h : Scanned st L u a)
    (hdot : st.sawDot = false) (rest : List Char) :
    ∃ st', scanDigits 10 ('.' :: rest) st = scanDigits 10 rest st' ∧ Scanned st' L (u + 1) 0 ∧
      st'.sawDot = true := by
  rw [scanDigits]
  simp only [show ('.' == '_') = false by decide, beq_self_eq_true, hdot, Bool.false_eq_true,
    if_false, if_true]
  exact ⟨_, rfl, ⟨h.mant, h.kept, h.nd_le, h.zeros, h.sticky, h.underscores, by rw [h.used],
    h.sawDigits, fun _ => by simp⟩, rfl⟩

theorem scanDigits_decimal {W F : List ℕ} (hW : ∀ x ∈ W, x < 10) (hF : ∀ x ∈ F, x < 10)
    (hlen : W.length + F.length ≤ keep) :
    Scanned (scanDigits 10 (digitChars W ++ '.' :: digitChars F) {}) (W ++ F)
        (W.length + 1 + F.length) F.length ∧
      (scanDigits 10 (digitChars W ++ '.' :: digitChars F) {}).sawDot = true := by
  obtain ⟨st1, e1, h1, p1⟩ := scanDigits_digits hW scanned_init (by simp; omega) ('.' :: digitChars F)
  obtain ⟨st2, e2, h2, p2⟩ := scanDigits_point h1 p1 (digitChars F)
  obtain ⟨st3, e3, h3, p3⟩ := scanDigits_digits hF h2 (by simp; omega) []
  rw [List.append_nil] at e3
  rw [e1, e2, e3]
  simp only [List.nil_append, zero_add] at h3
  exact ⟨h3, p3.trans p2⟩

theorem readNumber_decimal (neg : Bool) {W F : List ℕ} (hW : ∀ x ∈ W, x < 10)
    (hF : ∀ x ∈ F, x < 10) (hne : W ≠ []) (hlen : W.length + F.length ≤ keep) :
    readNumber ((if neg then ['-'] else []) ++ (digitChars W ++ '.' :: digitChars F)) =
      some { neg, mant := whole (W ++ F), exp := if whole (W ++ F) = 0 then 0 else -(F.length : ℤ),
             hex := false, sticky := false,
             used := (if neg then 1 else 0) + (W.length + 1 + F.length) } := by
  obtain ⟨hs, hdot⟩ := scanDigits_decimal hW hF hlen
  obtain ⟨w, W', rfl⟩ := List.exists_cons_of_ne_nil hne
  obtain ⟨-, -, -, -, hplus, hminus, -⟩ := digit_char w (hW w (List.mem_cons_self ..))
  have hused : (digitChars (w :: W') ++ '.' :: digitChars F).length =
      (w :: W').length + 1 + F.length := by
    simp only [List.length_append, length_digitChars, List.length_cons]
    omega
  -- a leading zero is followed by a digit or the point, never by an `x`
  have hhex : ∀ x head tail, digitChars (w :: W') ++ '.' :: digitChars F = '0' :: x :: head :: tail →
      (x.toLower == 'x') = false := by
    intro x head tail heq
    rw [digitChars_cons, List.cons_append] at heq
    obtain ⟨-, heq⟩ := List.cons.inj heq
    cases W' with
    | nil =>
      obtain ⟨rfl, -⟩ := List.cons.inj heq
      decide
    | cons w' W'' =>
      obtain ⟨rfl, -⟩ := List.cons.inj heq
      exact (digit_char w' (hW w' (by simp))).2.2.2.2.2.2.1
  have hc : ∃ rest, digitChars (w :: W') ++ '.' :: digitChars F = Char.ofNat (w + '0'.toNat) :: rest :=
    ⟨_, rfl⟩
  generalize digitChars (w :: W') ++ '.' :: digitChars F = body at hs hdot hused hhex hc ⊢
  obtain ⟨rest, rfl⟩ := hc
  unfold readNumber
  -- the sign, then the rest reads the same either way: no hexadecimal prefix, all the
  -- characters scanned, no exponent, and the point `F.length` digits from the end
  cases neg
  all_goals
    simp only [Bool.false_eq_true, if_false, if_true, List.nil_append, List.singleton_append,
      List.cons.injEq, hplus, hminus, false_and, imp_false, not_false_eq_true, forall_const]
    split
    on_goal 1 =>
      rename_i x head tail heq
      simp only [hhex x head tail heq]
    all_goals
      simp only [Bool.false_eq_true, if_false]
      generalize scanDigits 10 (Char.ofNat (w + '0'.toNat) :: rest) {} = st at hs hdot ⊢
      have hdrop : List.drop st.used (Char.ofNat (w + '0'.toNat) :: rest) = [] := by
        rw [hs.used, ← hused, List.drop_length]
      have hsaw : st.sawDigits = true := by
        rw [hs.sawDigits]
        simp
      have hexp : (if (st.mant != 0) = true then st.dp + 0 - ↑st.kept else 0) =
          if whole (w :: W' ++ F) = 0 then 0 else -(F.length : ℤ) := by
        have := hs.point hdot
        rw [hs.mant, hs.kept]
        by_cases h0 : whole (w :: W' ++ F) = 0
        · simp only [h0, bne_self_eq_false, Bool.false_eq_true, if_false, if_true]
        · simp only [h0, bne_iff_ne, ne_eq, not_false_eq_true, if_true, if_false]
          omega
      simp only [hsaw, hdrop, Bool.not_true, Bool.false_eq_true, if_false, hs.underscores,
        Bool.false_or, Bool.false_and, hdot, if_true, hexp]
      simp [hs.mant, hs.sticky, hs.used]

theorem special_decimal (neg : Bool) {w : ℕ} (hw : w < 10) (rest : List Char) :
    special ((if neg then ['-'] else []) ++ Char.ofNat (w + '0'.toNat) :: rest) = none := by
  obtain ⟨-, -, -, -, hplus, hminus, -, hi, hiI, hnN⟩ := digit_char w hw
  unfold special
  cases neg
  · -- no sign: the digit is no letter a special value starts with
    rw [if_neg (by decide), List.nil_append]
    split
    next r heq => exact absurd (List.cons.inj heq).1 hplus
    next r heq => exact absurd (List.cons.inj heq).1 hminus
    next c tl heq =>
      obtain ⟨rfl, -⟩ := List.cons.inj heq
      simp only [hiI, hnN, Bool.false_and, Bool.false_eq_true, if_false]
    next heq => exact absurd heq (List.cons_ne_nil _ _)
  · -- after the sign, `inf` matches no letter of `infinity`
    have hcp : commonPrefix (Char.ofNat (w + '0'.toNat) :: rest) "infinity".toList = 0 := by
      rw [show "infinity".toList = 'i' :: "nfinity".toList from rfl, commonPrefix, hi]
      rfl
    simp only [if_true, List.singleton_append, hcp]
    rfl

theorem readBits_decimal (neg : Bool) {W F : List ℕ} (hW : ∀ x ∈ W, x < 10)
    (hF : ∀ x ∈ F, x < 10) (hne : W ≠ []) (hlen : W.length + F.length ≤ keep) {bits : UInt64}
    (hv : ({ neg, mant := whole (W ++ F), exp := if whole (W ++ F) = 0 then 0 else -(F.length : ℤ),
             hex := false, sticky := false,
             used := (if neg then 1 else 0) + (W.length + 1 + F.length) } : Reading).value =
      (bits, false)) :
    readBits (String.ofList ((if neg then ['-'] else []) ++ (digitChars W ++ '.' :: digitChars F))) =
      .ok bits := by
  obtain ⟨w, W', rfl⟩ := List.exists_cons_of_ne_nil hne
  have hnum := readNumber_decimal neg hW hF hne hlen
  unfold readBits
  simp only [String.toList_ofList]
  rw [digitChars_cons, List.cons_append, special_decimal neg (hW w (List.mem_cons_self ..))]
  rw [← List.cons_append, ← digitChars_cons] at *
  rw [hnum]
  simp only [hv]
  cases neg <;> simp <;> omega

def literalFrac (d : Digits) : List ℕ := if fracDigits d = [] then [0] else fracDigits d

theorem literalFrac_value (d : Digits) :
    (whole (wholeDigits d ++ literalFrac d) : ℚ) * 10 ^ (-((literalFrac d).length : ℤ)) =
      d.value := by
  rw [← split_value]
  unfold literalFrac
  split_ifs with h
  · -- the zero after the point multiplies the whole part by ten and divides it back
    rw [h, whole_append, List.append_nil, List.length_singleton, List.length_nil]
    simp [whole]
  · rfl

theorem ofFinite_digit_lt {m : ℕ} {e : ℤ} (h : (m = 0 ∧ e = minExp) ∨ Canonical m e) :
    ∀ x ∈ (ofFinite m e).digits, x < 10 := by
  rcases h with ⟨rfl, -⟩ | hc
  · simp [ofFinite]
  · exact (ofFinite_fits hc).digit_lt

theorem ofFinite_bounds {m : ℕ} {e : ℤ} (h : (m = 0 ∧ e = minExp) ∨ Canonical m e) :
    (ofFinite m e).digits.length ≤ 18 ∧ -324 < (ofFinite m e).point ∧ (ofFinite m e).point ≤ 309 := by
  rcases h with ⟨rfl, -⟩ | hc
  · simp [ofFinite]
  · have hf := ofFinite_fits hc
    exact ⟨hf.length_le, hf.point_gt, hf.point_le⟩

theorem length_literalFrac (d : Digits) :
    (literalFrac d).length = max (d.digits.length - d.point).toNat 1 := by
  unfold literalFrac
  split_ifs with h
  · rw [← length_fracDigits, h]
    rfl
  · have := List.length_pos_iff.2 h
    rw [← length_fracDigits]
    omega

theorem literal_length_le {d : Digits} (hn : d.digits.length ≤ 18) (hlo : -324 < d.point)
    (hhi : d.point ≤ 309) : (wholeDigits d).length + (literalFrac d).length ≤ keep := by
  rw [length_wholeDigits, length_literalFrac, keep]
  omega

theorem digitChars_split_lt {d : Digits} (hd : ∀ x ∈ d.digits, x < 10) :
    ∀ x ∈ wholeDigits d ++ literalFrac d, x < 10 := by
  intro x hx
  unfold literalFrac at hx
  split_ifs at hx with hF
  · rcases List.mem_append.1 hx with hx | hx
    · rcases mem_split (List.mem_append_left (fracDigits d) hx) with h | h
      · exact hd x h
      · omega
    · rw [List.mem_singleton.1 hx]
      decide
  · rcases mem_split hx with h | h
    · exact hd x h
    · omega

theorem dot_not_mem_digitChars {ds : List ℕ} (hd : ∀ x ∈ ds, x < 10) : '.' ∉ digitChars ds := by
  simp only [digitChars, List.mem_map, not_exists, not_and]
  intro x hx heq
  have hdot := (digit_char x (hd x hx)).2.1
  rw [heq] at hdot
  exact absurd hdot (by decide)

theorem fixed_toList {x : Float} {neg : Bool} {m : ℕ} {e : ℤ} (h : shape x = .finite neg m e) :
    (Layout.fixed x).toList = (if neg then ['-'] else []) ++
      (digitChars (wholeDigits (ofFinite m e)) ++
        (if fracDigits (ofFinite m e) = [] then [] else
          '.' :: digitChars (fracDigits (ofFinite m e)))) := by
  unfold Layout.fixed Layout.render
  rw [h]
  simp only [Layout.digitsText, String.toList_append, positional_toList]
  cases neg <;> rfl

theorem floatLiteral_toList {x : Float} {neg : Bool} {m : ℕ} {e : ℤ}
    (h : shape x = .finite neg m e) :
    (floatLiteral x).toList = (if neg then ['-'] else []) ++
      (digitChars (wholeDigits (ofFinite m e)) ++ '.' :: digitChars (literalFrac (ofFinite m e))) := by
  have hd := ofFinite_digit_lt (shape_finite h).2
  have hfixed := fixed_toList h
  set d := ofFinite m e
  have hnodot : '.' ∉ (if neg then ['-'] else []) ++ digitChars (wholeDigits d) := by
    have hW : ∀ x ∈ wholeDigits d, x < 10 :=
      fun x hx => digitChars_split_lt hd x (List.mem_append_left _ hx)
    cases neg <;> simp [dot_not_mem_digitChars hW]
  unfold floatLiteral
  rw [h]
  dsimp only
  -- the positional text has a point exactly when the fraction has digits
  by_cases hF : fracDigits d = []
  · rw [if_neg, String.toList_append, hfixed, if_pos hF, literalFrac, if_pos hF]
    · simp
      rfl
    · rw [String.contains_char_eq, hfixed, if_pos hF, List.append_nil]
      simpa using hnodot
  · rw [if_pos, hfixed, if_neg hF, literalFrac, if_neg hF]
    rw [String.contains_char_eq, hfixed, if_neg hF]
    simp

theorem value_of_reads {m : ℕ} {e : ℤ} (hc : Canonical m e) (neg : Bool) {c k used : ℕ}
    (hcpos : 0 < c) (hr : Reads m e (c * 10 ^ (-(k : ℤ)))) :
    ({ neg, mant := c, exp := -(k : ℤ), hex := false, sticky := false, used } : Reading).value =
      (ofMagnitude neg ((e - minExp).toNat * 2 ^ 52 + m), false) := by
  obtain ⟨hlo, hhi⟩ := Reads.decimal_bounds hc hr
  obtain ⟨p1, p2⟩ := point_bounds hcpos hlo hhi
  have hlen : (Nat.toDigits 10 c).length = (digitsOf c).length := by
    simp [digitsOf]
  unfold Reading.value
  simp only [beq_iff_eq, Nat.pos_iff_ne_zero.1 hcpos, if_false, Bool.false_eq_true, hlen]
  rw [if_neg (by omega), if_neg (by omega)]
  -- the exact value as a ratio of naturals, at most one power of ten
  have hratio : ∀ {num den : ℕ}, 0 < num → 0 < den → (num : ℚ) / den = c * 10 ^ (-(k : ℤ)) →
      ofRatio neg num den false = (ofMagnitude neg ((e - minExp).toNat * 2 ^ 52 + m), false) := by
    intro num den hnum hden hq
    unfold ofRatio
    rw [if_neg (by simpa using hnum.ne'), roundRatio_of_reads hc hnum hden (hq ▸ hr)]
  by_cases hk : k = 0
  · subst hk
    rw [if_pos (by simp)]
    exact hratio (by simpa [Nat.pow_eq] using hcpos) one_pos (by simp [Nat.pow_eq])
  · rw [if_neg (by omega)]
    refine hratio hcpos (by simp [Nat.pow_eq]) ?_
    rw [zpow_neg, zpow_natCast, div_eq_mul_inv]
    simp [Nat.pow_eq]

theorem readBits_floatLiteral {x : Float} {neg : Bool} {m : ℕ} {e : ℤ}
    (h : shape x = .finite neg m e) : readBits (floatLiteral x) = .ok x.toBits := by
  obtain ⟨hbits, hcases⟩ := shape_finite h
  have hd := digitChars_split_lt (ofFinite_digit_lt hcases)
  set d := ofFinite m e with hdef
  have hW : ∀ x ∈ wholeDigits d, x < 10 := fun x hx => hd x (List.mem_append_left _ hx)
  have hF : ∀ x ∈ literalFrac d, x < 10 := fun x hx => hd x (List.mem_append_right _ hx)
  rw [← String.ofList_toList (s := floatLiteral x), floatLiteral_toList h, hbits]
  obtain ⟨hn, hlo, hhi⟩ := ofFinite_bounds hcases
  refine readBits_decimal neg hW hF (wholeDigits_ne_nil d) (literal_length_le hn hlo hhi) ?_
  rcases hcases with ⟨rfl, rfl⟩ | hc
  · -- zero: the digits are `0.0`
    have h0 : whole (wholeDigits d ++ literalFrac d) = 0 := by
      simp [hdef, ofFinite, wholeDigits, literalFrac, fracDigits, whole]
    simp [Reading.value, h0]
  · -- nonzero: the literal's value is the shortest digits', which the double reads as
    have hr := (ofFinite_fits hc).reads
    rw [← hdef, ← literalFrac_value] at hr
    have hpos : 0 < whole (wholeDigits d ++ literalFrac d) := by
      have hv := (Reads.decimal_bounds hc hr).1
      by_contra h0
      rw [Nat.eq_zero_of_not_pos h0, Nat.cast_zero, zero_mul] at hv
      exact absurd hv (not_lt.2 (by positivity))
    rw [if_neg hpos.ne']
    exact value_of_reads hc neg hpos hr

end LiveArith.FloatSyntax
