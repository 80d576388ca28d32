import LiveArith.Proofs.Syntax.Move
import LiveArith.Proofs.Number.Decimal
import LiveArith.Build

/-!
Building the expression of an error-free tree. The tree of a term builds by the term's own
recursion: a literal reads its text, parentheses build their inside, and an operation builds its
left operand, then checks its operator, then builds its right operand.
-/

set_option autoImplicit false

namespace LiveArith.Syntax.Grammar

open LiveArith.Syntax.Parser

variable {src : ByteArray}

theorem build_expression {h : Head} {c : Node} (hk : h.kind = .expression) (hc : c.named = true) :
    Build.node src ⟨h, [c]⟩ = Build.node src c := by
  rw [Build.node]
  simp only [hk, List.attach_cons, List.attach_nil, List.map_nil, List.find?_cons, hc]

theorem build_parenthesized {h : Head} {a b d : Node} (hk : h.kind = .parenthesized)
    (ha : (a.field == .inner) = false) (hb : (b.field == .inner) = true)
    (hm : b.missing = false) :
    Build.node src ⟨h, [a, b, d]⟩ =
      (do let x ← Build.node src b; .ok (.paren ⟨h.start, h.stop - h.start⟩ x)) := by
  rw [Build.node]
  simp only [hk, List.attach_cons, List.attach_nil, List.map_nil, List.map_cons, List.find?_cons,
    ha, hb, hm]
  rfl

theorem build_binaryNode {h : Head} {l o r : Node} (hk : h.kind = .binary)
    (hl : (l.field == .left) = true) (ho : (o.field == .operator) = true)
    (hr : (r.field == .right) = true) (hor : (o.field == .right) = false)
    (hlr : (l.field == .right) = false) (hlo : (l.field == .operator) = false)
    (hlm : l.missing = false) (hom : o.missing = false) (hrm : r.missing = false) :
    Build.node src ⟨h, [l, o, r]⟩ =
      (do
        let x ← Build.node src l
        match Op.ofSymbol? o.type with
        | none =>
          .error { Build.fail src .invalidOperator o ("unsupported operator '" ++ o.type ++ "'") with
                   hint := Build.operatorHint }
        | some op =>
          let y ← Build.node src r
          .ok (.binary ⟨h.start, h.stop - h.start⟩ x op y)) := by
  rw [Build.node]
  simp only [hk, List.attach_cons, List.attach_nil, List.map_nil, List.map_cons, List.find?_cons,
    hl, ho, hr, hor, hlr, hlo, hlm, hom, hrm]
  rfl

theorem build_wrap (I : Input) {c : Node} (hc : c.named = true) :
    Build.node src (wrap I c) = Build.node src ⟨{ c.head with field := .none }, c.children⟩ := by
  obtain ⟨d, k, h⟩ := stamp_eq I ((Node.leaf .expression c.start c.stop).push .none c)
  rw [wrap, h]
  exact build_expression rfl hc

theorem node_wrap (t : Term) : ∃ c, c.named = true ∧ t.node src = wrap (.ofText src 0) c := by
  cases t with
  | lit f i j => exact ⟨_, by cases f <;> rfl, rfl⟩
  | paren i u c => exact ⟨_, rfl, rfl⟩
  | binary l op q r => exact ⟨_, rfl, rfl⟩

theorem build_refield (t : Term) (f : Field) :
    Build.node src ⟨{ (t.node src).head with field := f }, (t.node src).children⟩ =
      Build.node src (t.node src) := by
  obtain ⟨c, hc, he⟩ := @node_wrap src t
  obtain ⟨d, k, h⟩ := stamp_eq (.ofText src 0) ((Node.leaf .expression c.start c.stop).push .none c)
  rw [he, wrap, h]
  simp only [Node.push, Node.leaf, List.nil_append]
  have hc' : (⟨{ c.head with field := .none }, c.children⟩ : Node).named = true := hc
  rw [build_expression (by rfl) hc', build_expression (by rfl) hc']

def Term.span (t : Term) : Span := ⟨t.start, (t.stop : Int) - t.start⟩

theorem build_lit (f : Bool) (i j : Nat) :
    Build.node src ((Term.lit f i j).node src) = Build.node src (Node.leaf (literalKind f) i j) := by
  rw [Term.node, build_wrap _ (by cases f <;> rfl)]
  rfl

theorem build_paren (i : Nat) (t : Term) (c : Nat) :
    Build.node src ((Term.paren i t c).node src) =
      (do let x ← Build.node src (t.node src); .ok (.paren (Term.paren i t c).span x)) := by
  rw [Term.node, build_wrap _ rfl]
  simp only [Node.push, Node.leaf, List.nil_append, List.cons_append]
  rw [build_parenthesized rfl rfl rfl ?_, build_refield]
  · simp [Term.span, Term.start, Term.stop]
  · exact Term.node_missing src t

theorem build_binary (l : Term) (op : UInt8) (q : Nat) (r : Term) :
    Build.node src ((Term.binary l op q r).node src) =
      (do
        let x ← Build.node src (l.node src)
        match Op.ofSymbol? (Node.token op q).type with
        | none =>
          .error { Build.fail src .invalidOperator (Node.token op q)
                     ("unsupported operator '" ++ (Node.token op q).type ++ "'") with
                   hint := Build.operatorHint }
        | some o =>
          let y ← Build.node src (r.node src)
          .ok (.binary (Term.binary l op q r).span x o y)) := by
  rw [Term.node, build_wrap _ rfl]
  simp only [Node.push, Node.leaf, List.nil_append, List.cons_append]
  rw [build_binaryNode rfl rfl rfl rfl rfl rfl rfl ?_ rfl ?_, build_refield, build_refield]
  · rfl
  · exact Term.node_missing src l
  · exact Term.node_missing src r

def chars (src : ByteArray) (i j : Nat) : List Char :=
  (List.range' i (j - i)).map fun k => Char.ofNat (Utf8.byteAt src k).toNat

theorem chars_cons {i j : Nat} (h : i < j) :
    chars src i j = Char.ofNat (Utf8.byteAt src i).toNat :: chars src (i + 1) j := by
  rw [chars, show j - i = (j - (i + 1)) + 1 by omega, List.range'_succ, List.map_cons]
  rfl

theorem decodeAt_ascii {b : ByteArray} {i : Nat} (h : Utf8.byteAt b i < 128) :
    Utf8.decodeAt b i = some (Char.ofNat (Utf8.byteAt b i).toNat, 0) := by
  unfold Utf8.decodeAt Utf8.lead
  simp [h]

theorem charsFrom_ascii (b : ByteArray) (stop : Nat) :
    ∀ i acc, (∀ k, i ≤ k → k < stop → Utf8.byteAt b k < 128) →
      Utf8.charsFrom b stop i acc = acc.reverse ++ chars b i stop := by
  intro i
  -- on the bytes left to read; each one is a one-byte character
  induction hn : stop - i generalizing i with
  | zero =>
    intro acc _
    rw [Utf8.charsFrom, if_neg (by omega), chars, hn]
    simp
  | succ n ih =>
    intro acc h
    rw [Utf8.charsFrom, if_pos (by omega), decodeAt_ascii (h i (Nat.le_refl i) (by omega))]
    dsimp only
    have hcons : chars b i stop = Char.ofNat (Utf8.byteAt b i).toNat :: chars b (i + 1) stop :=
      chars_cons (by omega)
    rw [ih (i + 0 + 1) (by omega) _ (fun k hk hk' => h k (by omega) hk'), hcons]
    simp

theorem byteAt_extract {i j k : Nat} (hj : j ≤ src.size) (hk : k < j - i) :
    Utf8.byteAt (src.extract i j) k = Utf8.byteAt src (i + k) := by
  have hsize : (src.extract i j).size = j - i := by simp [ByteArray.size_extract]; omega
  rw [byteAt_of_lt (by omega), byteAt_of_lt (by omega), ByteArray.getElem_extract]

theorem toText_extract {i j : Nat} (hj : j ≤ src.size)
    (h : ∀ k, i ≤ k → k < j → Utf8.byteAt src k < 128) :
    Utf8.toText (src.extract i j) = String.ofList (chars src i j) := by
  have hsize : (src.extract i j).size = j - i := by simp [ByteArray.size_extract]; omega
  rw [Utf8.toText, charsFrom_ascii _ _ 0 [] (fun k _ hk => by
    rw [byteAt_extract hj (by omega)]; exact h _ (by omega) (by omega))]
  simp only [List.reverse_nil, List.nil_append, chars, hsize, Nat.sub_zero]
  apply congrArg String.ofList
  rw [List.range'_eq_map_range, List.range'_eq_map_range, List.map_map, List.map_map]
  apply List.map_congr_left
  intro k hk
  simp only [Function.comp_apply, Nat.zero_add]
  rw [byteAt_extract hj (by simpa using hk)]

def wholeValue (src : ByteArray) (i j : Nat) : Int :=
  if Utf8.byteAt src i = 45 then -(IntSyntax.decimal (chars src (i + 1) j) : Int)
  else IntSyntax.decimal (chars src i j)

theorem toNat_of_isDigit {b : UInt8} (h : Parser.isDigit b = true) :
    48 ≤ b.toNat ∧ b.toNat ≤ 57 := by
  simp only [Parser.isDigit, Bool.and_eq_true, decide_eq_true_eq, UInt8.le_iff_toNat_le] at h
  simpa using h

theorem ascii_of_isDigit {b : UInt8} (h : Parser.isDigit b = true) : b < 128 := by
  have := toNat_of_isDigit h
  rw [UInt8.lt_iff_toNat_lt]
  simp only [UInt8.reduceToNat]
  omega

theorem isDigit_char {b : UInt8} (h : Parser.isDigit b = true) :
    (Char.ofNat b.toNat).isDigit = true := by
  have hb := toNat_of_isDigit h
  have hall : ∀ n, n < 10 → (Char.ofNat (48 + n)).isDigit = true := by decide
  have := hall (b.toNat - 48) (by omega)
  rwa [show 48 + (b.toNat - 48) = b.toNat by omega] at this

theorem digits_chars {a j : Nat} (h : Run Parser.isDigit src a j) :
    ∀ c ∈ chars src a j, c.isDigit = true := by
  intro c hc
  obtain ⟨k, hk, rfl⟩ := List.mem_map.1 hc
  rw [List.mem_range'_1] at hk
  exact isDigit_char (h.2.2 k hk.1 (by omega))

theorem readInt64_literal {i j : Nat} (hl : Literal src false i j) :
    IntSyntax.readInt64 (Utf8.toText (src.extract i j)) =
      if Int64.minValue.toInt ≤ wholeValue src i j ∧ wholeValue src i j ≤ Int64.maxValue.toInt
      then .ok (Int64.ofInt (wholeValue src i j))
      else .error ⟨"ParseInt", Utf8.toText (src.extract i j), .range⟩ := by
  -- the text is the optional sign and the digits, all of them one-byte characters
  cases hl with
  | @whole i a j hs hd ha =>
  have hdig := digits_chars hd
  have hne : chars src a j ≠ [] := by rw [chars]; simp; omega
  rcases hs with rfl | ⟨rfl, h45⟩
  · -- no sign: the first byte is a digit
    have hnot : Utf8.byteAt src a ≠ 45 := by
      have := hd.head ha
      intro h; rw [h] at this; exact absurd this (by decide)
    rw [toText_extract hd.le_size (fun k hk hk' => ascii_of_isDigit (hd.2.2 k hk hk')),
      wholeValue, if_neg hnot]
    exact IntSyntax.readInt64_decimal false hdig hne
  · rw [toText_extract hd.le_size (fun k hk hk' => ?_), wholeValue, if_pos h45,
      chars_cons (by omega), h45]
    · exact IntSyntax.readInt64_decimal true hdig hne
    · rcases Nat.eq_or_lt_of_le hk with rfl | hlt
      · rw [h45]; decide
      · exact ascii_of_isDigit (hd.2.2 k (by omega) hk')

/-- A token that building reads: a literal over `[start, stop)`, with a fraction when `float`,
or the operator byte `sym` at `pos`. -/
inductive Token where
  | literal (float : Bool) (start stop : Nat)
  | operator (sym : UInt8) (pos : Nat)
deriving DecidableEq

namespace Token

def start : Token → Nat
  | literal _ i _ => i
  | operator _ q => q

def stop : Token → Nat
  | literal _ _ j => j
  | operator _ q => q + 1

def kind : Token → ErrorKind
  | literal .. => .number
  | operator .. => .invalidOperator

def detail : Token → String
  | literal false .. => "failed to parse integer"
  | literal true .. => "failed to parse float"
  | operator c _ => "unsupported operator '" ++ (Char.ofNat c.toNat).toString ++ "'"

def Rejected (src : ByteArray) : Token → Prop
  | literal false i j =>
    ¬(Int64.minValue.toInt ≤ wholeValue src i j ∧ wholeValue src i j ≤ Int64.maxValue.toInt)
  | literal true i j => (FloatSyntax.readBits (Utf8.toText (src.extract i j))).toBool = false
  | operator c _ => c = 37 ∨ c = 94

instance (src : ByteArray) : DecidablePred (Rejected src) := fun k =>
  match k with
  | literal false _ _ => inferInstanceAs (Decidable (¬_))
  | literal true _ _ => inferInstanceAs (Decidable (_ = false))
  | operator _ _ => inferInstanceAs (Decidable (_ ∨ _))

/-- The diagnostic reports the token: its kind and detail, over the token's bytes of `src`. -/
structure Reported (k : Token) (src : ByteArray) (d : Diagnostic) : Prop where
  source : d.source = src
  offset : d.offset = k.start
  length : d.length = (k.stop : Int) - k.start
  kind : d.kind = k.kind
  detail : d.detail = k.detail

end Token

def Term.tokens : Term → List Token
  | .lit f i j => [.literal f i j]
  | .paren _ t _ => t.tokens
  | .binary l op q r => l.tokens ++ .operator op q :: r.tokens

def Spanned : Expr → Term → Prop
  | .int s _, t@(.lit false _ _) => s = t.span
  | .float s _, t@(.lit true _ _) => s = t.span
  | .paren s x, t@(.paren _ u _) => s = t.span ∧ Spanned x u
  | .binary s x _ y, t@(.binary l _ _ r) => s = t.span ∧ Spanned x l ∧ Spanned y r
  | _, _ => False

theorem build_literal {f : Bool} {i j : Nat} (hl : Literal src f i j) :
    (¬(Token.literal f i j).Rejected src →
      ∃ x, Build.node src ((Term.lit f i j).node src) = .ok x ∧ Spanned x (.lit f i j)) ∧
    ((Token.literal f i j).Rejected src →
      ∃ d, Build.node src ((Term.lit f i j).node src) = .error d ∧
        (Token.literal f i j).Reported src d) := by
  have hij := hl.lt
  have hcontent : (Node.leaf (literalKind f) i j).content src = src.extract i j :=
    clampedSlice_nat (Nat.le_of_lt hij) hl.le_size
  have hlen : max ((j : Int) - i) 0 = (j : Int) - i := by omega
  -- the leaf's text is the literal's bytes, read by the integer or the float reader
  rw [build_lit]
  cases f with
  | false =>
    simp only [literalKind, Bool.false_eq_true, if_false] at hcontent ⊢
    rw [Node.leaf] at hcontent ⊢
    rw [Build.node]
    dsimp only
    rw [hcontent, readInt64_literal hl]
    by_cases hfit : Int64.minValue.toInt ≤ wholeValue src i j ∧
        wholeValue src i j ≤ Int64.maxValue.toInt
    · rw [if_pos hfit]
      exact ⟨fun _ => ⟨_, rfl, rfl⟩, fun hrej => absurd hfit hrej⟩
    · rw [if_neg hfit]
      refine ⟨fun hok => absurd hfit hok, fun _ => ⟨_, rfl, ?_⟩⟩
      exact ⟨rfl, rfl, hlen, rfl, rfl⟩
  | true =>
    simp only [literalKind, if_true] at hcontent ⊢
    rw [Node.leaf] at hcontent ⊢
    rw [Build.node]
    dsimp only
    rw [hcontent]
    cases hb : FloatSyntax.readBits (Utf8.toText (src.extract i j)) with
    | ok v =>
      refine ⟨fun _ => ⟨_, rfl, rfl⟩, fun hrej => ?_⟩
      simp [Token.Rejected, hb, Except.toBool] at hrej
    | error e =>
      refine ⟨fun hok => absurd (by simp [Token.Rejected, hb, Except.toBool]) hok,
        fun _ => ⟨_, rfl, ?_⟩⟩
      exact ⟨rfl, rfl, hlen, rfl, rfl⟩

theorem token_type {c : UInt8} (hc : c ≠ 0) (q : Int) :
    (Node.token c q).type = (Char.ofNat c.toNat).toString := by
  simp [Node.type, Node.token, Node.sym, hc]

theorem ofSymbol_token {c : UInt8} (hc : 0 < power c) (q : Nat) :
    ((Token.operator c q).Rejected src ∧ Op.ofSymbol? (Node.token c q).type = none) ∨
      (¬(Token.operator c q).Rejected src ∧ ∃ o, Op.ofSymbol? (Node.token c q).type = some o) := by
  rcases (power_pos_iff c).1 hc with rfl | rfl | rfl | rfl | rfl | rfl <;>
    simp [Token.Rejected, token_type, Op.ofSymbol?, Op.symbol]

theorem build_accepted {t : Term} (hd : Derives src t) (hok : ∀ k ∈ t.tokens, ¬k.Rejected src) :
    ∃ x, Build.node src (t.node src) = .ok x ∧ Spanned x t := by
  induction hd with
  | lit hl => exact (build_literal hl).1 (hok _ (List.mem_singleton_self _))
  | paren _ _ _ _ _ ih =>
    obtain ⟨x, hx, hs⟩ := ih hok
    exact ⟨.paren _ x, by rw [build_paren, hx]; rfl, rfl, hs⟩
  | @binary l r op q _ _ _ hpow _ _ ihl ihr =>
    obtain ⟨x, hx, hxs⟩ := ihl fun k hk => hok k (List.mem_append_left _ hk)
    obtain ⟨y, hy, hys⟩ := ihr fun k hk =>
      hok k (List.mem_append_right _ (List.mem_cons_of_mem _ hk))
    -- an operator byte of the grammar that is not rejected names an operation
    have hop := hok (.operator op q) (List.mem_append_right _ (List.mem_cons_self ..))
    obtain ⟨o, ho⟩ : ∃ o, Op.ofSymbol? (Node.token op q).type = some o := by
      rcases @ofSymbol_token src _ hpow q with ⟨hrej, -⟩ | ⟨-, ho⟩
      · exact absurd hrej hop
      · exact ho
    refine ⟨.binary _ x o y, ?_, rfl, hxs, hys⟩
    rw [build_binary, hx]
    simp only [ho, hy]
    rfl

theorem build_rejected {t : Term} {k : Token} (hd : Derives src t)
    (hk : t.tokens.find? (fun k => decide (k.Rejected src)) = some k) :
    ∃ d, Build.node src (t.node src) = .error d ∧ k.Reported src d := by
  induction hd with
  | @lit f i j hl =>
    by_cases hrej : (Token.literal f i j).Rejected src
    · simp only [Term.tokens, List.find?_cons, hrej, decide_true, Option.some.injEq] at hk
      subst hk
      exact (build_literal hl).2 hrej
    · simp [Term.tokens, hrej] at hk
  | paren _ _ _ _ _ ih =>
    obtain ⟨d, hd, hr⟩ := ih hk
    exact ⟨d, by rw [build_paren, hd]; rfl, hr⟩
  | @binary l r op q hdl _ _ hpow _ _ ihl ihr =>
    rw [Term.tokens, List.find?_append] at hk
    cases hl : l.tokens.find? (fun k => decide (k.Rejected src)) with
    | some k' =>
      -- the left operand fails first
      rw [hl, Option.some_or] at hk
      obtain ⟨d, hd, hr⟩ := ihl (hk ▸ hl)
      exact ⟨d, by rw [build_binary, hd]; rfl, hr⟩
    | none =>
      -- the left operand builds; then the operator is checked before the right operand
      rw [hl, Option.none_or, List.find?_cons] at hk
      obtain ⟨x, hx, -⟩ := build_accepted hdl (by simpa using List.find?_eq_none.1 hl)
      rcases @ofSymbol_token src _ hpow q with ⟨hrej, ho⟩ | ⟨hok, o, ho⟩
      · simp only [hrej, decide_true, Option.some.injEq] at hk
        subst hk
        refine ⟨{ Build.fail src .invalidOperator (Node.token op q)
            ("unsupported operator '" ++ (Node.token op q).type ++ "'") with
            hint := Build.operatorHint }, by rw [build_binary, hx]; simp only [ho]; rfl, ?_⟩
        have hc : op ≠ 0 := by rintro rfl; simp [power] at hpow
        refine ⟨rfl, rfl, ?_, rfl, ?_⟩
        · simp only [Build.fail, Diagnostic.spanning, Node.token_start, Node.token_stop, Token.stop,
            Token.start]
          omega
        · show "unsupported operator '" ++ (Node.token op q).type ++ "'" = Token.detail (.operator op q)
          rw [token_type hc]
          rfl
      · simp only [hok, decide_false] at hk
        obtain ⟨d, hd, hr⟩ := ihr hk
        exact ⟨d, by rw [build_binary, hx]; simp only [ho, hd]; rfl, hr⟩

theorem tokens_ordered {t : Term} (hd : Derives src t) :
    (∀ k ∈ t.tokens, t.start ≤ k.start ∧ k.start < k.stop ∧ k.stop ≤ t.stop) ∧
      t.tokens.Pairwise (fun a b => a.stop ≤ b.start) := by
  induction hd with
  | lit hl =>
    refine ⟨fun k hk => ?_, List.pairwise_singleton _ _⟩
    rw [Term.tokens, List.mem_singleton] at hk
    subst hk
    have := hl.lt
    simp only [Term.start, Term.stop, Token.start, Token.stop]
    omega
  | paren _ hopen _ hclose _ ih =>
    refine ⟨fun k hk => ?_, ih.2⟩
    have := ih.1 k hk
    have := hopen.1
    have := hclose.1
    simp only [Term.start, Term.stop]
    omega
  | @binary l r op q hdl hrun _ _ hrun2 hdr ihl ihr =>
    have hgap := hrun.1
    have hgap2 := hrun2.1
    have hl := hdl.start_lt_stop
    have hr := hdr.start_lt_stop
    refine ⟨fun k hk => ?_, ?_⟩
    · rw [Term.tokens, List.mem_append, List.mem_cons] at hk
      simp only [Term.start, Term.stop]
      rcases hk with hk | rfl | hk
      · have := ihl.1 k hk
        omega
      · simp only [Token.start, Token.stop]
        omega
      · have := ihr.1 k hk
        omega
    · -- left tokens end before the operator, which ends before the right tokens
      refine List.pairwise_append.2 ⟨ihl.2, List.pairwise_cons.2 ⟨fun b hb => ?_, ihr.2⟩,
        fun a ha b hb => ?_⟩
      · have := ihr.1 b hb
        simp only [Token.stop]
        omega
      · have := ihl.1 a ha
        rcases List.mem_cons.1 hb with rfl | hb
        · simp only [Token.start]
          omega
        · have := ihr.1 b hb
          omega

theorem find?_leftmost {l : List Token} {p : Token → Bool} {k : Token}
    (hs : l.Pairwise (fun a b => a.stop ≤ b.start)) (hpos : ∀ a ∈ l, a.start < a.stop)
    (hk : l.find? p = some k) : ∀ a ∈ l, p a = true → k.start ≤ a.start := by
  induction l with
  | nil => simp at hk
  | cons b l ih =>
    intro a ha hpa
    rw [List.find?_cons] at hk
    rw [List.pairwise_cons] at hs
    cases hpb : p b with
    | true =>
      rw [hpb, Option.some.injEq] at hk
      subst hk
      rcases List.mem_cons.1 ha with rfl | ha
      · exact Nat.le_refl _
      · have := hs.1 a ha
        have := hpos _ (List.mem_cons_self ..)
        omega
    | false =>
      rw [hpb] at hk
      rcases List.mem_cons.1 ha with rfl | ha
      · rw [hpb] at hpa
        cases hpa
      · exact ih hs.2 (fun a ha => hpos a (List.mem_cons_of_mem _ ha)) hk a ha hpa

theorem build_tree_blank :
    Build.tree (some (Node.leaf .source 0 src.size)) src =
      .error (Diagnostic.spanning .parse src 0 src.size "empty expression") := rfl

theorem build_tree_term (t : Term) :
    Build.tree (some ((Node.leaf .source 0 src.size).push .none (t.node src))) src =
      Build.node src (t.node src) := by
  have hnamed : ((Node.leaf .source 0 src.size).push .none (t.node src)).namedChildren =
      [⟨{ (t.node src).head with field := .none }, (t.node src).children⟩] := by
    have hk : (t.node src).head.kind = .expression := Term.node_kind src t
    simp [Node.namedChildren, Node.named, Node.kind, hk]
    rfl
  unfold Build.tree
  dsimp only
  rw [hnamed]
  exact build_refield t .none

/-- On a text within the input limit whose tree holds no ERROR and no MISSING node, building
fails exactly when the text is blank or one of its tokens is rejected: a blank text fails as an
empty expression spanning it, and otherwise the failure reports the leftmost rejected token over
its bytes, with that token's kind and detail. A build that succeeds gives every subexpression the
span of the term it is built from. -/
theorem build_fails_at_first_rejected_token {limits : Limits} (hsize : src.size ≤ limits.maxInput) :
    ∃ root, (∃ tree, parse limits src none = .ok tree ∧ tree.root = some root) ∧
      (root.clean = true →
        (Blank src ∧ Build.tree (some root) src =
            .error (Diagnostic.spanning .parse src 0 src.size "empty expression")) ∨
        ∃ t, Spells src limits.maxDepth t ∧ Grouped t ∧
          root = (Node.leaf .source 0 src.size).push .none (t.node src) ∧
          (((∀ k ∈ t.tokens, ¬k.Rejected src) ∧
              ∃ x, Build.tree (some root) src = .ok x ∧ Spanned x t) ∨
            ∃ k ∈ t.tokens, k.Rejected src ∧
              (∀ k' ∈ t.tokens, k'.Rejected src → k.start ≤ k'.start) ∧
              ∃ d, Build.tree (some root) src = .error d ∧ k.Reported src d)) := by
  obtain ⟨root, hroot⟩ := source_root_some (.ofText src limits.maxDepth)
  refine ⟨root, ⟨_, parse_none hsize, hroot⟩, fun hc => ?_⟩
  rcases source_sound hroot hc with ⟨hb, rfl⟩ | ⟨t, hs, hg, rfl⟩
  · exact .inl ⟨hb, build_tree_blank⟩
  refine .inr ⟨t, hs, hg, rfl, ?_⟩
  rw [build_tree_term]
  cases hf : t.tokens.find? (fun k => decide (k.Rejected src)) with
  | none =>
    have hok : ∀ k ∈ t.tokens, ¬k.Rejected src := by simpa using List.find?_eq_none.1 hf
    exact .inl ⟨hok, build_accepted hs.derives hok⟩
  | some k =>
    -- the first rejected token of the term is the leftmost, the tokens being in source order
    have hord := tokens_ordered hs.derives
    have hleft : ∀ k' ∈ t.tokens, k'.Rejected src → k.start ≤ k'.start := fun k' hk' hrej =>
      find?_leftmost hord.2 (fun a ha => (hord.1 a ha).2.1) hf k' hk' (by simpa using hrej)
    exact .inr ⟨k, List.mem_of_find?_eq_some hf, by simpa using List.find?_some hf, hleft,
      build_rejected hs.derives hf⟩

/-- The remainder `1%2` under the default limits. -/
theorem build_fails_at_first_rejected_token_remainder :
    (ByteArray.mk #[49, 37, 50]).size ≤ ({} : Limits).maxInput ∧
      ∃ root, (∃ tree, parse {} (ByteArray.mk #[49, 37, 50]) none = .ok tree ∧
          tree.root = some root) ∧
        (root.clean = true →
          (Blank (ByteArray.mk #[49, 37, 50]) ∧ Build.tree (some root) (ByteArray.mk #[49, 37, 50]) =
              .error (Diagnostic.spanning .parse (ByteArray.mk #[49, 37, 50]) 0
                (ByteArray.mk #[49, 37, 50]).size "empty expression")) ∨
          ∃ t, Spells (ByteArray.mk #[49, 37, 50]) ({} : Limits).maxDepth t ∧ Grouped t ∧
            root = (Node.leaf .source 0 (ByteArray.mk #[49, 37, 50]).size).push .none
              (t.node (ByteArray.mk #[49, 37, 50])) ∧
            (((∀ k ∈ t.tokens, ¬k.Rejected (ByteArray.mk #[49, 37, 50])) ∧
                ∃ x, Build.tree (some root) (ByteArray.mk #[49, 37, 50]) = .ok x ∧ Spanned x t) ∨
              ∃ k ∈ t.tokens, k.Rejected (ByteArray.mk #[49, 37, 50]) ∧
                (∀ k' ∈ t.tokens, k'.Rejected (ByteArray.mk #[49, 37, 50]) → k.start ≤ k'.start) ∧
                ∃ d, Build.tree (some root) (ByteArray.mk #[49, 37, 50]) = .error d ∧
                  k.Reported (ByteArray.mk #[49, 37, 50]) d)) :=
  ⟨by decide, build_fails_at_first_rejected_token (by decide)⟩

end LiveArith.Syntax.Grammar
