import LiveArith.Proofs.Syntax.Printed

/-!
What a parse builds prints back as it is.
-/

set_option autoImplicit false

namespace LiveArith.Binary64

theorem field_ofMagnitude (neg : Bool) {bits : Nat} (h : bits < 2047 * Nat.pow 2 52) :
    ((ofMagnitude neg bits).toNat >>> 52) % 2048 ≠ 2047 := by
  have h52 : Nat.pow 2 52 = 4503599627370496 := rfl
  have h63 : Nat.pow 2 63 = 9223372036854775808 := rfl
  rw [h52] at h
  unfold ofMagnitude
  rw [UInt64.toNat_ofNat', Nat.shiftRight_eq_div_pow, h63]
  cases neg <;> simp only [if_true, if_false, Bool.false_eq_true] <;> omega

theorem ofRatio_finite {neg : Bool} {num den : Nat} {sticky : Bool} {x : UInt64}
    (h : ofRatio neg num den sticky = (x, false)) : (x.toNat >>> 52) % 2048 ≠ 2047 := by
  unfold ofRatio at h
  split at h
  · cases h
    exact field_ofMagnitude neg (by decide)
  · split at h
    · next bits hb =>
      cases h
      rw [roundRatio_eq] at hb
      dsimp only at hb
      split at hb
      · cases hb
      · cases hb
        exact field_ofMagnitude neg (by omega)
    · cases h

end LiveArith.Binary64

namespace LiveArith.FloatSyntax

open Binary64

theorem value_finite {r : Reading} {x : UInt64} (h : r.value = (x, false)) :
    (x.toNat >>> 52) % 2048 ≠ 2047 := by
  unfold Reading.value at h
  split at h
  · cases h
    exact field_ofMagnitude _ (by decide)
  · split at h
    · split at h <;> exact ofRatio_finite h
    · dsimp only at h
      split at h
      · cases h
      · split at h
        · cases h
          exact field_ofMagnitude _ (by decide)
        · split at h <;> exact ofRatio_finite h

theorem readBits_finite {s : String} {v : UInt64} (hs : special s.toList = none)
    (h : readBits s = .ok v) : (v.toNat >>> 52) % 2048 ≠ 2047 := by
  unfold readBits at h
  simp only [hs] at h
  split at h
  · cases h
  · split at h
    · cases h
    · split at h
      · cases h
      · next hover =>
        cases h
        exact value_finite (Prod.ext rfl (by simpa using hover))

end LiveArith.FloatSyntax

namespace LiveArith.Syntax.Grammar

open LiveArith.Syntax.Parser

variable {src : ByteArray}

theorem Literal.ascii {f : Bool} {i j : Nat} (hl : Literal src f i j) :
    ∀ k, i ≤ k → k < j → Utf8.byteAt src k < 128 := by
  intro k hik hkj
  have hsign : ∀ {a}, Sign src i a → k < a → Utf8.byteAt src k < 128 := by
    rintro a (rfl | ⟨rfl, h45⟩) hka
    · omega
    · rw [show k = i by omega, h45]
      decide
  cases hl with
  | @whole i a j hs hd ha =>
    by_cases hka : k < a
    · exact hsign hs hka
    · exact ascii_of_isDigit (hd.2.2 k (by omega) hkj)
  | @fraction i a b j hs hd hdot hd' hlt =>
    by_cases hka : k < a
    · exact hsign hs hka
    by_cases hkb : k < b
    · exact ascii_of_isDigit (hd.2.2 k (by omega) hkb)
    by_cases hkp : k = b
    · rw [hkp, hdot]
      decide
    · exact ascii_of_isDigit (hd'.2.2 k (by omega) hkj)

theorem special_digit_or_point {b : UInt8} (hb : Parser.isDigit b = true ∨ b = 46)
    (cs : List Char) :
    FloatSyntax.special (Char.ofNat b.toNat :: cs) = none ∧
      FloatSyntax.special ('-' :: Char.ofNat b.toNat :: cs) = none := by
  have hk : b.toNat = 46 ∨ 48 ≤ b.toNat ∧ b.toNat ≤ 57 := by
    rcases hb with hb | rfl
    · exact .inr (toNat_of_isDigit hb)
    · exact .inl rfl
  generalize b.toNat = k at hk ⊢
  rcases hk with rfl | ⟨h₁, h₂⟩
  · exact ⟨rfl, rfl⟩
  · interval_cases k <;> exact ⟨rfl, rfl⟩

theorem Literal.special_none {i j : Nat} (hl : Literal src true i j) :
    FloatSyntax.special (Utf8.toText (src.extract i j)).toList = none := by
  rw [toText_extract hl.le_size hl.ascii, String.toList_ofList]
  cases hl with
  | @fraction i a b j hs hd hdot hd' hlt =>
  -- after the sign comes a digit, or the point of a literal with no whole part
  have hfirst : Parser.isDigit (Utf8.byteAt src a) = true ∨ Utf8.byteAt src a = 46 := by
    rcases Nat.eq_or_lt_of_le hd.1 with rfl | hab
    · exact .inr hdot
    · exact .inl (hd.2.2 a (Nat.le_refl a) hab)
  have hab := hd.1
  rcases hs with rfl | ⟨rfl, h45⟩
  · rw [chars_cons (by omega)]
    exact (special_digit_or_point hfirst _).1
  · rw [chars_cons (by omega), chars_cons (by omega), h45]
    exact (special_digit_or_point hfirst _).2

theorem Literal.readBits_finite {i j : Nat} (hl : Literal src true i j) {v : UInt64}
    (h : FloatSyntax.readBits (Utf8.toText (src.extract i j)) = .ok v) :
    (v.toNat >>> 52) % 2048 ≠ 2047 :=
  FloatSyntax.readBits_finite hl.special_none h

end LiveArith.Syntax.Grammar

namespace LiveArith.Expr

def Tight : Nat → Expr → Prop
  | m, .binary _ l op r => m ≤ op.precedence ∧ l.Tight op.precedence ∧ r.Tight (op.precedence + 1)
  | _, .paren _ e => e.Tight 1
  | _, _ => True

def nesting : Expr → Nat
  | .paren _ e => e.nesting + 1
  | .binary _ l _ r => max l.nesting r.nesting
  | _ => 0

theorem Tight.mono {m m' : Nat} {x : Expr} (h : x.Tight m) (hm : m' ≤ m) : x.Tight m' := by
  cases x with
  | binary sp l op r => exact ⟨Nat.le_trans hm h.1, h.2⟩
  | _ => exact h

theorem wraps_eq_false {op : Op} {parent : Nat} {right : Bool} (hp : parent ≤ op.precedence)
    (hr : right = true → parent < op.precedence) : wraps op parent right = false := by
  cases right with
  | false => simp [wraps]; omega
  | true => have := hr rfl; simp [wraps]; omega

theorem groupIn_of_tight {x : Expr} {m parent : Nat} {right : Bool} (h : x.Tight m)
    (hp : parent ≤ m) (hr : right = true → parent < m) : x.groupIn parent right = x := by
  induction x generalizing m parent right with
  | paren sp e ih => simp only [groupIn, ih h (Nat.zero_le 1) (fun _ => Nat.one_pos)]
  | binary sp l op r ihl ihr =>
    obtain ⟨hm, hl, hr'⟩ := h
    have hw := wraps_eq_false (Nat.le_trans hp hm) fun h => Nat.lt_of_lt_of_le (hr h) hm
    have hl' : l.groupIn op.precedence false = l := ihl hl (Nat.le_refl _) (fun h => by cases h)
    have hr'' : r.groupIn op.precedence true = r :=
      ihr hr' (Nat.le_succ _) (fun _ => Nat.lt_succ_self _)
    simp only [groupIn, hw, Bool.false_eq_true, if_false, hl', hr'']
  | _ => rfl

theorem depthIn_of_tight {x : Expr} {m parent : Nat} {right : Bool} (h : x.Tight m)
    (hp : parent ≤ m) (hr : right = true → parent < m) : x.depthIn parent right = x.nesting := by
  induction x generalizing m parent right with
  | paren sp e ih => simp only [depthIn, nesting, ih h (Nat.zero_le 1) (fun _ => Nat.one_pos)]
  | binary sp l op r ihl ihr =>
    obtain ⟨hm, hl, hr'⟩ := h
    have hw := wraps_eq_false (Nat.le_trans hp hm) fun h => Nat.lt_of_lt_of_le (hr h) hm
    have hl' : l.depthIn op.precedence false = l.nesting := ihl hl (Nat.le_refl _) (fun h => by cases h)
    have hr'' : r.depthIn op.precedence true = r.nesting :=
      ihr hr' (Nat.le_succ _) (fun _ => Nat.lt_succ_self _)
    simp only [depthIn, nesting, hw, Bool.false_eq_true, if_false, hl', hr'']
  | _ => rfl

end LiveArith.Expr

namespace LiveArith.Syntax.Grammar

open LiveArith.Syntax.Parser

variable {src : ByteArray}

theorem build_withField (n : Node) (f : Field) :
    Build.node src ⟨{ n.head with field := f }, n.children⟩ = Build.node src n := by
  obtain ⟨h, cs⟩ := n
  rw [Build.node, Build.node]
  rfl

theorem build_error_kind {n : Node} (hk : n.kind = .error) (x : Expr) :
    Build.node src n ≠ .ok x := by
  obtain ⟨h, cs⟩ := n
  rw [Build.node]
  simp only [Node.kind] at hk
  simp only [hk]
  intro h
  cases h

theorem build_binary_ok {h : Head} {l o r : Node} (hk : h.kind = .binary)
    (hl : (l.field == .left) = true) (ho : (o.field == .operator) = true)
    (hr : (r.field == .right) = true) (hor : (o.field == .right) = false)
    (hlr : (l.field == .right) = false) (hlo : (l.field == .operator) = false)
    (hom : o.missing = false) {z : Expr} (hz : Build.node src ⟨h, [l, o, r]⟩ = .ok z) :
    ∃ sp x op y, Build.node src l = .ok x ∧ Op.ofSymbol? o.type = some op ∧
      Build.node src r = .ok y ∧ z = .binary sp x op y := by
  rw [Build.node] at hz
  simp only [hk, List.attach_cons, List.attach_nil, List.map_nil, List.map_cons, List.find?_cons,
    hl, ho, hr, hor, hlr, hlo, hom] at hz
  -- a missing operand is reported before anything is built
  cases hlm : l.missing
  case true => simp only [hlm, if_true] at hz; cases hz
  cases hrm : r.missing
  case true => simp only [hlm, hrm, if_true, Bool.false_eq_true, if_false] at hz; cases hz
  simp only [hlm, hrm, Bool.false_eq_true, if_false] at hz
  obtain ⟨x, hx, hz⟩ := Build.bind_eq_ok hz
  split at hz
  · cases hz
  · next op hop =>
    obtain ⟨y, hy, hz⟩ := Build.bind_eq_ok hz
    cases hz
    exact ⟨_, x, op, y, hx, hop, hy, rfl⟩

theorem build_paren_ok {h : Head} {a b d : Node} (hk : h.kind = .parenthesized)
    (ha : (a.field == .inner) = false) (hb : (b.field == .inner) = true) {z : Expr}
    (hz : Build.node src ⟨h, [a, b, d]⟩ = .ok z) :
    ∃ sp y, Build.node src b = .ok y ∧ z = .paren sp y := by
  rw [Build.node] at hz
  simp only [hk, List.attach_cons, List.attach_nil, List.map_nil, List.map_cons, List.find?_cons,
    ha, hb] at hz
  split at hz
  · cases hz
  obtain ⟨y, hy, hz⟩ := Build.bind_eq_ok hz
  cases hz
  exact ⟨_, y, hy, rfl⟩

theorem build_binaryNode_ok (I : Input) {L R : Node} {c : UInt8} {q : Nat} {z : Expr}
    (h : Build.node src (wrap I (binaryNode L c q R)) = .ok z) :
    ∃ sp x op y, Build.node src L = .ok x ∧ Op.ofSymbol? (Node.token c q).type = some op ∧
      Build.node src R = .ok y ∧ z = .binary sp x op y := by
  rw [build_wrap I rfl] at h
  simp only [binaryNode, Node.push, Node.leaf, List.nil_append, List.cons_append] at h
  obtain ⟨sp, x, op, y, hx, hop, hy, rfl⟩ := build_binary_ok rfl rfl rfl rfl rfl rfl rfl rfl h
  rw [build_withField] at hx hy
  exact ⟨sp, x, op, y, hx, hop, hy, rfl⟩

theorem build_parenNode_ok (I : Input) {q : Nat} {inner close : Node} {z : Expr}
    (h : Build.node src (wrap I (parenNode q inner close)) = .ok z) :
    ∃ sp y, Build.node src inner = .ok y ∧ z = .paren sp y := by
  rw [build_wrap I rfl] at h
  simp only [parenNode, Node.push, Node.leaf, List.nil_append, List.cons_append] at h
  obtain ⟨sp, y, hy, rfl⟩ := build_paren_ok rfl rfl rfl h
  rw [build_withField] at hy
  exact ⟨sp, y, hy, rfl⟩

end LiveArith.Syntax.Grammar

namespace LiveArith.Syntax.Grammar

open LiveArith.Syntax.Parser

variable {src : ByteArray}

theorem ofSymbol_token_some {c : UInt8} {q : Int} {op : Op} (hc : 0 < power c)
    (h : Op.ofSymbol? (Node.token c q).type = some op) :
    op.valid = true ∧ power c = op.precedence ∧ rightBound c = op.precedence + 1 := by
  rcases (power_pos_iff c).1 hc with rfl | rfl | rfl | rfl | rfl | rfl <;>
    simp [token_type, Op.ofSymbol?, Op.symbol] at h <;> subst h <;> exact ⟨rfl, rfl, rfl⟩

theorem build_absent_number (a : Int) (x : Expr) :
    Build.node src (Node.absent .number 0 a) ≠ .ok x := by
  rw [Node.absent, Build.node]
  simp only [if_true]
  intro h
  cases h

theorem build_literal_finite {fl : Bool} {i j : Nat} (hl : Literal src fl i j) {x : Expr}
    (h : Build.node src (Node.leaf (literalKind fl) i j) = .ok x) :
    x.FiniteFloats ∧ (∀ m, x.Tight m) ∧ x.nesting = 0 := by
  have hcontent : (Node.leaf (literalKind fl) i j).content src = src.extract i j :=
    clampedSlice_nat (Nat.le_of_lt hl.lt) hl.le_size
  cases fl with
  | false =>
    simp only [literalKind, Bool.false_eq_true, if_false] at hcontent h
    rw [Node.leaf] at hcontent h
    rw [Build.node] at h
    simp only [Bool.false_eq_true, if_false] at h
    split at h
    · cases h
      exact ⟨trivial, fun _ => trivial, rfl⟩
    · cases h
  | true =>
    simp only [literalKind, if_true] at hcontent h
    rw [Node.leaf] at hcontent h
    rw [Build.node] at h
    dsimp only at h
    rw [hcontent] at h
    split at h
    · next v hv =>
      cases h
      exact ⟨hl.readBits_finite hv, fun _ => trivial, rfl⟩
    · cases h

end LiveArith.Syntax.Grammar

namespace LiveArith.Syntax.Grammar

open LiveArith.Syntax.Parser

def Reprints (src : ByteArray) (D m d : Nat) (n : Node) (pos : Nat) : Prop :=
  ∀ x, Build.node src n = .ok x → x.FiniteFloats ∧ x.Tight m ∧ x.nesting + d ≤ D ∧ Halts src m pos

def Leads (src : ByteArray) (D m d : Nat) (L : Node) (p : Nat) : Prop :=
  ∀ x, Build.node src L = .ok x → x.FiniteFloats ∧ x.Tight m ∧ x.nesting + d ≤ D ∧
    ∀ q, Run Node.blank src p q → Node.blank (Utf8.byteAt src q) = false →
      0 < power (Utf8.byteAt src q) → m ≤ power (Utf8.byteAt src q) →
        x.Tight (power (Utf8.byteAt src q))

def OperandReprints (src : ByteArray) (D d : Nat) (n : Node) : Prop :=
  ∀ x, Build.node src n = .ok x → x.FiniteFloats ∧ (∀ m, x.Tight m) ∧ x.nesting + d ≤ D

def ExprReprints (src : ByteArray) (D p : Nat) : Prop :=
  ∀ m d k n pos, 1 ≤ m → d ≤ D → (expression (.ofText src D) m p d k).result = (some n, pos) →
    Reprints src D m d n pos

variable {src : ByteArray} {D : Nat}

theorem OperandReprints.leads {d : Nat} {n : Node} (h : OperandReprints src D d n) (m p : Nat) :
    Leads src D m d n p := fun x hx =>
  let ⟨hp, ht, hn⟩ := h x hx
  ⟨hp, ht m, hn, fun _ _ _ _ _ => ht _⟩

-- one step of the climb keeps its invariant: the operation it builds is the next left operand
theorem Leads.binary {m d p₀ q epos : Nat} {c : UInt8} {L rhs : Node} (hL : Leads src D m d L p₀)
    (hrun : Run Node.blank src p₀ q) (hb : Node.blank (Utf8.byteAt src q) = false)
    (hbyte : Utf8.byteAt src q = c) (hpow : 0 < power c) (hmc : m ≤ power c)
    (hR : Reprints src D (rightBound c) d rhs epos) :
    Leads src D m d (wrap (.ofText src D) (binaryNode L c q rhs)) epos := by
  subst hbyte
  intro z hz
  obtain ⟨sp, x, op, y, hx, hop, hy, rfl⟩ := build_binaryNode_ok _ hz
  obtain ⟨hxp, hxt, hxn, hxnext⟩ := hL x hx
  obtain ⟨hyp, hyt, hyn, hyhalt⟩ := hR y hy
  obtain ⟨-, hprec, hright⟩ := ofSymbol_token_some hpow hop
  have hxc : x.Tight op.precedence := by
    have := hxnext q hrun hb hpow hmc
    rwa [hprec] at this
  have hyc : y.Tight (op.precedence + 1) := by rwa [hright] at hyt
  refine ⟨⟨hxp, hyp⟩, ⟨by omega, hxc, hyc⟩, by simp only [Expr.nesting]; omega, ?_⟩
  intro q' hq' hb' _ _
  have := hyhalt q' hq' hb'
  exact ⟨by omega, hxc, hyc⟩

section reprints

variable {p : Nat} (ih : ∀ p', p < p' → p' ≤ src.size → ExprReprints src D p')
include ih

theorem paren_reprints {q d k pos : Nat} {n : Node} (hpq : p ≤ q) (hq : q < src.size)
    (h : (parenthesized (.ofText src D) q d k).result = (some n, pos)) :
    OperandReprints src D d n := by
  by_cases hdeep : D ≤ d
  · -- too deep: one ERROR node to the end
    rw [parenthesized_deep _ hdeep] at h
    simp only [Prod.mk.injEq, Option.some.injEq] at h
    obtain ⟨rfl, -⟩ := h
    obtain ⟨j, -, -, he⟩ := errorToEnd_span (.ofText src D) (q := q) (Nat.le_of_lt hq)
    intro x hx
    rw [he] at hx
    exact absurd hx (build_error_kind rfl x)
  have hdD' := Nat.lt_of_not_le hdeep
  by_cases hempty : peek (.ofText src D) (skipBlank (.ofText src D) (q + 1)) = 41 ∧
      skipBlank (.ofText src D) (q + 1) < src.size
  · -- `()`: one ERROR node over both parentheses
    rw [parenthesized_empty _ hdD' hq hempty.1 hempty.2] at h
    simp only [Prod.mk.injEq, Option.some.injEq] at h
    obtain ⟨rfl, -⟩ := h
    exact fun x hx => absurd hx (build_error_kind rfl x)
  rw [parenthesized_inner _ hdD' hq hempty] at h
  dsimp only at h
  obtain ⟨hrun1, _⟩ := run_skipBlank (.ofText src D) (p := q + 1) hq
  have hE := ih _ (by have := hrun1.1; omega) hrun1.le_size 1 (d + 1) k
  generalize expression (.ofText src D) 1 (skipBlank (.ofText src D) (q + 1)) (d + 1) k = E at h hE
  obtain ⟨enode, epos, k', hle⟩ := E
  -- closed or not, the parentheses build from what they hold, one level deeper
  have hwrap : ∀ close, OperandReprints src D d
      (wrap (.ofText src D) (parenNode q (enode.getD (Node.absent .number 0 epos)) close)) := by
    intro close x hx
    obtain ⟨sp, y, hy, rfl⟩ := build_parenNode_ok _ hx
    cases enode with
    | none => exact absurd hy (build_absent_number _ y)
    | some inner =>
      obtain ⟨hyp, hyt, hyn, -⟩ := hE inner epos (Nat.le_refl 1) hdD' rfl y hy
      exact ⟨hyp, fun _ => hyt, by simp only [Expr.nesting]; omega⟩
  split at h <;>
  · simp only [Prod.mk.injEq, Option.some.injEq] at h
    obtain ⟨rfl, -⟩ := h
    exact hwrap _

theorem operand_reprints {d k pos : Nat} {n : Node} (hp : p ≤ src.size) (hdD : d ≤ D)
    (h : (operand (.ofText src D) p d k).result = (some n, pos)) : OperandReprints src D d n := by
  rw [operand_fresh _ (ofText_get? _)] at h
  obtain ⟨hrun, _⟩ := run_skipBlank (.ofText src D) hp
  rcases fresh_cases (.ofText src D) (le_skipBlank _ p) (d := d) (r := k) with
    ⟨hf, h40, hqs⟩ | ⟨kind, e, hf, hscan, hlt⟩ | hf
  · rw [hf] at h
    exact paren_reprints ih hrun.1 hqs h
  · -- a literal: an integer, or a finite double
    rw [hf] at h
    simp only [Prod.mk.injEq, Option.some.injEq] at h
    obtain ⟨rfl, rfl⟩ := h
    obtain ⟨fl, rfl, hl⟩ := literal_of_scanNumber (.ofText src D) hrun.le_size hscan hlt
    intro x hx
    rw [build_wrap _ (by cases fl <;> rfl), build_withField] at hx
    obtain ⟨hxp, hxt, hxn⟩ := build_literal_finite hl hx
    exact ⟨hxp, hxt, by omega⟩
  · rw [hf] at h
    cases h

theorem climb_reprints {m d k pos p₀ : Nat} {L n : Node} (hm1 : 1 ≤ m) (hdD : d ≤ D)
    (hp : p ≤ p₀) (hs : p₀ ≤ src.size) (hL : Leads src D m d L p₀)
    (h : (climb (.ofText src D) m L p₀ d k).result = (some n, pos)) :
    Reprints src D m d n pos := by
  induction hsz : src.size - p₀ using Nat.strongRecOn generalizing L p₀ k with
  | ind s ihc =>
  obtain ⟨q, hq⟩ : ∃ q, skipBlank (.ofText src D) p₀ = q := ⟨_, rfl⟩
  obtain ⟨c, hc⟩ : ∃ c, peek (.ofText src D) q = c := ⟨_, rfl⟩
  obtain ⟨hrun, hb⟩ := run_skipBlank (.ofText src D) hs
  rw [hq] at hrun hb
  have hbyte : Utf8.byteAt src q = c := hc
  by_cases hgo : 0 < power c ∧ m ≤ power c ∧ q < src.size
  · obtain ⟨hpow, hmc, hqs⟩ := hgo
    rw [climb_step _ hq hc hpow hmc hqs] at h
    obtain ⟨hrun1, _⟩ := run_skipBlank (.ofText src D) (p := q + 1) hqs
    have hq1 := hrun1.1
    have hpq := hrun.1
    have hE := ih _ (by omega) hrun1.le_size (rightBound c) d k
    have hS := (expression_shaped_all hrun1.le_size : Shaped src D _) (rightBound c) d k
    generalize expression (.ofText src D) (rightBound c) (skipBlank (.ofText src D) (q + 1)) d k = E
      at h hE hS
    obtain ⟨enode, epos, k', hle⟩ := E
    have hepos := (hS enode epos rfl).1
    cases enode with
    | none =>
      -- a missing right operand: the operation builds nothing
      dsimp only at h
      simp only [Prod.mk.injEq, Option.some.injEq] at h
      obtain ⟨rfl, rfl⟩ := h
      intro z hz
      obtain ⟨sp, x, op, y, -, -, hy, -⟩ := build_binaryNode_ok _ hz
      exact absurd hy (build_absent_number _ y)
    | some rhs =>
      dsimp only at h
      have hR := hE rhs epos (Nat.le_trans hpow (power_le_rightBound c)) hdD rfl
      have hL' := hL.binary hrun hb hbyte hpow hmc hR
      have hsub : src.size - epos < s := by
        have := hle
        omega
      exact ihc _ hsub (by omega) hepos hL' h rfl
  · rw [climb_stop _ hq hc (by simp only [ofText_src]; omega)] at h
    simp only [Prod.mk.injEq, Option.some.injEq] at h
    obtain ⟨rfl, rfl⟩ := h
    intro x hx
    obtain ⟨hxp, hxt, hxn, -⟩ := hL x hx
    exact ⟨hxp, hxt, hxn, halts_of_stop hrun hb hm1 (by rw [hbyte]; exact hgo)⟩

theorem expression_reprints (hp : p ≤ src.size) : ExprReprints src D p := by
  intro m d k n pos hm1 hdD h
  cases hop : (operand (.ofText src D) p d k).node with
  | none =>
    rw [expression_none _ hop] at h
    cases h
  | some left =>
    rw [expression_some _ hop] at h
    have hres : (operand (.ofText src D) p d k).result =
        (some left, (operand (.ofText src D) p d k).pos) := by
      simp only [Parsed.result, hop]
    have hpos := (operand_shaped (fun _ _ hle => expression_shaped_all hle) hp hres).1
    exact climb_reprints ih hm1 hdD (operand _ p d k).le hpos
      ((operand_reprints ih hp hdD hres).leads m _) h

end reprints

theorem expression_reprints_all {p : Nat} (hp : p ≤ src.size) : ExprReprints src D p := by
  induction hs : src.size - p using Nat.strongRecOn generalizing p with
  | ind s ih =>
  exact expression_reprints (fun p' hlt hle => ih (src.size - p') (by omega) hle rfl) hp

end LiveArith.Syntax.Grammar

namespace LiveArith.Syntax

open LiveArith.Syntax.Parser LiveArith.Syntax.Grammar

variable {src : ByteArray}

theorem parse_none_ok {limits : Limits} {T : Tree} (h : parse limits src none = .ok T) :
    T = source (.ofText src limits.maxDepth) := by
  unfold parse at h
  split at h
  · cases h
  · cases h
    rfl

theorem build_tree_source {r : Node} (hr : r.kind = .source) {x : Expr}
    (h : Build.tree (some r) src = .ok x) : ∃ c ∈ r.children, Build.node src c = .ok x := by
  unfold Build.tree at h
  simp only [hr, beq_self_eq_true, if_true] at h
  split at h
  · next c rest hcs =>
    have hc : c ∈ r.namedChildren := by rw [hcs]; exact List.mem_cons_self
    exact ⟨c, List.mem_of_mem_filter hc, h⟩
  · cases h

theorem build_source_reprints {D : Nat} {x : Expr}
    (h : Build.tree (source (.ofText src D)).root src = .ok x) :
    x.FiniteFloats ∧ x.Tight 1 ∧ x.nesting ≤ D := by
  have hrun0 := (run_skipBlank (.ofText src D) (p := 0) (Nat.zero_le _)).1
  -- an ERROR node after the expression builds nothing
  have herr : ∀ q, q < src.size →
      Build.node src ⟨{ (errorToEnd (.ofText src D) q).head with field := .none }, []⟩ ≠ .ok x := by
    intro q hq
    obtain ⟨j, -, -, he⟩ := errorToEnd_span (.ofText src D) (q := q) (Nat.le_of_lt hq)
    rw [he]
    exact build_error_kind rfl x
  rw [source] at h
  dsimp only at h
  split at h
  · obtain ⟨c, hc, -⟩ := build_tree_source rfl h
    cases hc
  have hE := (expression_reprints_all hrun0.le_size : ExprReprints src D _) 1 0 0
  generalize expression (.ofText src D) 1 (skipBlank (.ofText src D) 0) 0 0 = E at h hE
  obtain ⟨enode, epos, k', hle⟩ := E
  dsimp only at h
  cases enode with
  | none =>
    obtain ⟨c, hc, hcx⟩ := build_tree_source (by split <;> rfl) h
    split at hc
    · next hq =>
      simp only [Node.push, Node.leaf, List.nil_append, List.mem_singleton] at hc
      subst hc
      exact absurd hcx (herr _ hq)
    · cases hc
  | some e =>
    obtain ⟨c, hc, hcx⟩ := build_tree_source (by split <;> rfl) h
    -- the root's first child is the expression
    have he : Build.node src e = .ok x := by
      split at hc
      · next hq =>
        simp only [Node.push, Node.leaf, List.nil_append, List.cons_append, List.mem_cons,
          List.not_mem_nil, or_false] at hc
        rcases hc with rfl | rfl
        · rwa [build_withField] at hcx
        · exact absurd hcx (herr _ hq)
      · simp only [Node.push, Node.leaf, List.nil_append, List.mem_singleton] at hc
        subst hc
        rwa [build_withField] at hcx
    obtain ⟨hxp, hxt, hxn, -⟩ := hE e epos (Nat.le_refl 1) (Nat.zero_le D) rfl x he
    exact ⟨hxp, hxt, by omega⟩

end LiveArith.Syntax

namespace LiveArith.Expr

open Syntax

theorem built_printable {limits : Limits} {src : ByteArray} {T : Tree} {x : Expr}
    (hT : parse limits src none = .ok T) (hx : Build.tree T.root src = .ok x) :
    x.Printable ∧ x.groupIn 0 false = x ∧ x.depthIn 0 false ≤ limits.maxDepth := by
  have hc := Build.tree_compilable hx
  rw [parse_none_ok hT] at hx
  obtain ⟨hf, ht, hn⟩ := build_source_reprints hx
  have hd : x.depthIn 0 false = x.nesting :=
    depthIn_of_tight ht (Nat.zero_le 1) (fun h => by cases h)
  exact ⟨⟨hc, hf⟩, groupIn_of_tight ht (Nat.zero_le 1) (fun h => by cases h), hd ▸ hn⟩

/-- Printing and parsing agree. An expression that is printable, or that the parse of some text
builds, and whose text is within the default limits, parses back without an ERROR or MISSING
node and builds the expression with parentheses where the printer put them, which prints the
same text; an expression that was built comes back as it was. -/
theorem text_round_trips (e : Expr)
    (he : e.Printable ∨ ∃ limits src T, parse limits src none = .ok T ∧ Build.tree T.root src = .ok e)
    (hsize : e.text.toUTF8.size ≤ ({} : Limits).maxInput)
    (hdepth : e.depthIn 0 false ≤ ({} : Limits).maxDepth) :
    ∃ T root x, parse {} e.text.toUTF8 none = .ok T ∧ T.root = some root ∧ root.clean = true ∧
      Build.tree T.root e.text.toUTF8 = .ok x ∧ x.text = e.text ∧
      x.same (e.groupIn 0 false) = true ∧
      ((∃ limits src T, parse limits src none = .ok T ∧ Build.tree T.root src = .ok e) →
        x.same e = true) := by
  have hp : e.Printable := by
    rcases he with he | ⟨limits, src, T, hT, hx⟩
    · exact he
    · exact (built_printable hT hx).1
  obtain ⟨T, root, x, hT, hroot, hclean, hx, htext, hsame⟩ :=
    text_parses_and_builds_grouped {} e hp hsize hdepth
  refine ⟨T, root, x, hT, hroot, hclean, hx, htext, hsame, ?_⟩
  rintro ⟨limits, src, T₀, hT₀, hx₀⟩
  rwa [(built_printable hT₀ hx₀).2.1] at hsame

theorem text_round_trips_nested :
    (binary {} (int {} 1) .subtract (binary {} (int {} 2) .subtract (int {} 3))).Printable ∧
      (binary {} (int {} 1) .subtract (binary {} (int {} 2) .subtract (int {} 3))).text.toUTF8.size ≤
        ({} : Limits).maxInput ∧
      (binary {} (int {} 1) .subtract (binary {} (int {} 2) .subtract (int {} 3))).depthIn 0 false ≤
        ({} : Limits).maxDepth ∧
      ∃ T root x, parse {}
          (binary {} (int {} 1) .subtract (binary {} (int {} 2) .subtract (int {} 3))).text.toUTF8
          none = .ok T ∧ T.root = some root ∧ root.clean = true ∧
        Build.tree T.root
          (binary {} (int {} 1) .subtract (binary {} (int {} 2) .subtract (int {} 3))).text.toUTF8 =
          .ok x ∧
        x.text = (binary {} (int {} 1) .subtract (binary {} (int {} 2) .subtract (int {} 3))).text ∧
        x.same ((binary {} (int {} 1) .subtract
          (binary {} (int {} 2) .subtract (int {} 3))).groupIn 0 false) = true ∧
        ((∃ limits src T, parse limits src none = .ok T ∧ Build.tree T.root src =
            .ok (binary {} (int {} 1) .subtract (binary {} (int {} 2) .subtract (int {} 3)))) →
          x.same (binary {} (int {} 1) .subtract (binary {} (int {} 2) .subtract (int {} 3))) =
            true) :=
  have hp : (binary {} (int {} 1) .subtract (binary {} (int {} 2) .subtract (int {} 3))).Printable :=
    ⟨⟨rfl, trivial, rfl, trivial, trivial⟩, trivial, trivial, trivial⟩
  ⟨hp, by decide, by decide, text_round_trips _ (.inl hp) (by decide) (by decide)⟩

theorem depthIn_erase (x : Expr) (parent : Nat) (right : Bool) :
    x.erase.depthIn parent right = x.depthIn parent right := by
  induction x generalizing parent right with
  | paren sp e ih => simp only [erase, depthIn, ih]
  | binary sp l op r ihl ihr => simp only [erase, depthIn, ihl, ihr]
  | _ => rfl

section Nested

variable (sp : Span) (x : Expr)

theorem printable_iterate_paren (h : x.Printable) (n : Nat) : ((paren sp)^[n] x).Printable := by
  induction n with
  | zero => exact h
  | succ n ih => rw [Function.iterate_succ_apply']; exact ih

theorem depthIn_iterate_paren (n : Nat) :
    ((paren sp)^[n] x).depthIn 0 false = x.depthIn 0 false + n := by
  induction n with
  | zero => rfl
  | succ n ih => rw [Function.iterate_succ_apply', depthIn, ih, Nat.add_assoc]

theorem groupIn_iterate_paren (n : Nat) :
    ((paren sp)^[n] x).groupIn 0 false = (paren sp)^[n] (x.groupIn 0 false) := by
  induction n with
  | zero => rfl
  | succ n ih => rw [Function.iterate_succ_apply', Function.iterate_succ_apply', groupIn, ih]

theorem length_textIn_iterate_paren (n : Nat) :
    (((paren sp)^[n] x).textIn 0 false).length = (x.textIn 0 false).length + 2 * n := by
  induction n with
  | zero => rfl
  | succ n ih =>
    rw [Function.iterate_succ_apply', ← String.length_toList, textIn_paren_toList]
    simp only [List.length_cons, List.length_append, String.length_toList, ih, List.length_nil]
    omega

end Nested

theorem nested_text_needs_its_depth :
    (∃ T x, parse { maxDepth := 513 } ((paren {})^[513] (int {} 1)).text.toUTF8 none = .ok T ∧
      Build.tree T.root ((paren {})^[513] (int {} 1)).text.toUTF8 = .ok x ∧
      x.same ((paren {})^[513] (int {} 1)) = true) ∧
    ∀ T x, parse {} ((paren {})^[513] (int {} 1)).text.toUTF8 none = .ok T →
      Build.tree T.root ((paren {})^[513] (int {} 1)).text.toUTF8 = .ok x →
      x.same ((paren {})^[513] (int {} 1)) = false := by
  have hp := printable_iterate_paren {} (int {} 1) ⟨trivial, trivial⟩ 513
  have hdepth := depthIn_iterate_paren {} (int {} 1) 513
  constructor
  · have hsize : ((paren {})^[513] (int {} 1)).text.toUTF8.size ≤ 1048576 := by
      rw [text, Grammar.size_toUTF8_ascii (ascii_textIn hp 0 false), length_textIn_iterate_paren]
      decide
    obtain ⟨T, -, x, hT, -, -, hx, -, hsame⟩ :=
      text_parses_and_builds_grouped { maxDepth := 513 } _ hp hsize (Nat.le_of_eq hdepth)
    rw [groupIn_iterate_paren] at hsame
    exact ⟨T, x, hT, hx, hsame⟩
  · intro T x hT hx
    -- the default limits build nothing nested deeper than 512
    have hle := (built_printable hT hx).2.2
    cases hs : x.same ((paren {})^[513] (int {} 1))
    · rfl
    · have := congrArg (depthIn · 0 false) (same_iff.1 hs)
      simp only [depthIn_erase, hdepth] at this
      exact absurd hle (by change ¬ x.depthIn 0 false ≤ 512; omega)

end LiveArith.Expr
