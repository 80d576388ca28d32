import LiveArith.Proofs.Syntax.Build
import LiveArith.Proofs.Number.FloatText
import LiveArith.Proofs.Engine.Hits

/-!
Printed expressions parse back. The printer writes an expression with no absent part, only the four
operators and only finite float literals in one-byte characters, so its bytes show the text
(`Shows`).
-/

set_option autoImplicit false

namespace LiveArith.Binary64

theorem shape_ofBits_of_field {v : UInt64} (h : (v.toNat >>> 52) % 2048 ≠ 2047) :
    ∃ neg m e, shape (Float.ofBits v) = .finite neg m e ∧ (Float.ofBits v).toBits = v := by
  have hb := toBits_ofBits h
  have hs : ∃ neg m e, shape (Float.ofBits v) = .finite neg m e := by
    unfold shape
    simp only [Nat.pow_eq, beq_iff_eq, hb, h, if_false]
    split <;> exact ⟨_, _, _, rfl⟩
  obtain ⟨neg, m, e, hs⟩ := hs
  exact ⟨neg, m, e, hs, hb⟩

end LiveArith.Binary64

namespace LiveArith.Syntax.Grammar

open LiveArith.Syntax.Parser

def Shows (src : ByteArray) (s : Nat) (cs : List Char) : Prop :=
  s + cs.length ≤ src.size ∧ ∀ k (hk : k < cs.length), Utf8.byteAt src (s + k) = cs[k].val.toUInt8

def Ascii (cs : List Char) : Prop := ∀ c ∈ cs, c.toNat < 128

variable {src : ByteArray} {s : Nat}

theorem shows_append {a b : List Char} :
    Shows src s (a ++ b) ↔ Shows src s a ∧ Shows src (s + a.length) b := by
  simp only [Shows, List.length_append]
  constructor
  · rintro ⟨hlen, h⟩
    refine ⟨⟨by omega, fun k hk => ?_⟩, ⟨by omega, fun k hk => ?_⟩⟩
    · rw [h k (by omega), List.getElem_append_left hk]
    · rw [Nat.add_assoc, h (a.length + k) (by omega), List.getElem_append_right (by omega)]
      simp
  · rintro ⟨⟨ha, h₁⟩, ⟨hb, h₂⟩⟩
    refine ⟨by omega, fun k hk => ?_⟩
    by_cases hka : k < a.length
    · rw [List.getElem_append_left hka, h₁ k hka]
    · rw [List.getElem_append_right (by omega), ← h₂ (k - a.length) (by omega)]
      congr 1
      omega

theorem shows_cons {c : Char} {cs : List Char} :
    Shows src s (c :: cs) ↔ Shows src s [c] ∧ Shows src (s + 1) cs :=
  shows_append (a := [c]) (b := cs)

theorem shows_single {c : Char} :
    Shows src s [c] ↔ s < src.size ∧ Utf8.byteAt src s = c.val.toUInt8 := by
  simp only [Shows, List.length_singleton]
  constructor
  · rintro ⟨hlen, h⟩
    exact ⟨by omega, by simpa using h 0 (by omega)⟩
  · rintro ⟨hlen, h⟩
    refine ⟨by omega, fun k hk => ?_⟩
    obtain rfl : k = 0 := by omega
    simpa using h

theorem ascii_append {a b : List Char} : Ascii (a ++ b) ↔ Ascii a ∧ Ascii b := by
  simp only [Ascii, List.mem_append]
  exact ⟨fun h => ⟨fun c hc => h c (.inl hc), fun c hc => h c (.inr hc)⟩,
    fun h c hc => hc.elim (h.1 c) (h.2 c)⟩

theorem ascii_cons {c : Char} {cs : List Char} : Ascii (c :: cs) ↔ c.toNat < 128 ∧ Ascii cs :=
  List.forall_mem_cons

theorem ascii_wrap {cs : List Char} (h : Ascii cs) : Ascii ('(' :: (cs ++ [')'])) := by
  rw [ascii_cons, ascii_append, ascii_cons]
  exact ⟨by decide, h, by decide, List.forall_mem_nil _⟩

theorem utf8Encode_ascii (cs : List Char) (h : Ascii cs) :
    cs.utf8Encode = ⟨(cs.map fun c => c.val.toUInt8).toArray⟩ := by
  induction cs with
  | nil => rfl
  | cons c cs ih =>
    have hc : c.utf8Size = 1 := by
      rw [Char.utf8Size_eq_one_iff, UInt32.le_iff_toNat_le]
      exact Nat.le_of_lt_succ (h c List.mem_cons_self)
    rw [List.utf8Encode_cons, List.utf8Encode_singleton, String.utf8EncodeChar_eq_singleton hc,
      ih (fun d hd => h d (by simp [hd]))]
    apply ByteArray.ext
    simp

theorem toUTF8_ascii {str : String} (h : Ascii str.toList) :
    str.toUTF8 = ⟨(str.toList.map fun c => c.val.toUInt8).toArray⟩ := by
  rw [show str.toUTF8 = (String.ofList str.toList).toByteArray by rw [String.ofList_toList]; rfl,
    String.toByteArray_ofList, utf8Encode_ascii _ h]

theorem size_toUTF8_ascii {str : String} (h : Ascii str.toList) : str.toUTF8.size = str.length := by
  rw [toUTF8_ascii h, ← String.length_toList]
  simp [ByteArray.size]

theorem shows_toUTF8 (str : String) (h : Ascii str.toList) : Shows str.toUTF8 0 str.toList := by
  have hsize := size_toUTF8_ascii h
  rw [← String.length_toList] at hsize
  refine ⟨by omega, fun k hk => ?_⟩
  rw [Nat.zero_add, Utf8.byteAt, dif_pos (by omega)]
  have hk' : k < (str.toList.map fun c => c.val.toUInt8).toArray.size := by simpa using hk
  simp only [toUTF8_ascii h]
  show (str.toList.map fun c => c.val.toUInt8).toArray[k] = _
  simp

theorem run_of_shows {P : UInt8 → Bool} {cs : List Char} (hs : Shows src s cs)
    (h : ∀ c ∈ cs, P c.val.toUInt8 = true) : Run P src s (s + cs.length) := by
  refine ⟨Nat.le_add_right _ _, hs.1, fun k hk hk' => ?_⟩
  have hb := hs.2 (k - s) (by omega)
  rw [Nat.add_sub_cancel' hk] at hb
  rw [hb]
  exact h _ (List.getElem_mem _)

theorem toNat_byte {c : Char} (h : c.toNat < 128) : c.val.toUInt8.toNat = c.toNat := by
  rw [UInt32.toNat_toUInt8]
  exact Nat.mod_eq_of_lt (by unfold Char.toNat at h; omega)

theorem chars_of_shows {cs : List Char} (hs : Shows src s cs) (ha : Ascii cs) :
    chars src s (s + cs.length) = cs := by
  apply List.ext_getElem
  · simp [chars]
  · intro k h₁ h₂
    simp only [chars, List.getElem_map, List.getElem_range', Nat.one_mul]
    rw [hs.2 k h₂, toNat_byte (ha _ (List.getElem_mem _))]
    exact Char.ofNat_toNat _

theorem isDigit_byte {c : Char} (h : c.isDigit = true) : Parser.isDigit c.val.toUInt8 = true := by
  have hc := IntSyntax.toNat_of_isDigit h
  have hb := toNat_byte (c := c) (by omega)
  simp only [Parser.isDigit, Bool.and_eq_true, decide_eq_true_eq, UInt8.le_iff_toNat_le, hb]
  exact ⟨hc.1, hc.2⟩

theorem ascii_of_digits {cs : List Char} (h : ∀ c ∈ cs, c.isDigit = true) : Ascii cs :=
  fun c hc => by have := IntSyntax.toNat_of_isDigit (h c hc); omega

theorem ascii_minus {p : Prop} [Decidable p] : Ascii (if p then ['-'] else []) := fun c hc => by
  split_ifs at hc
  · rw [List.mem_singleton.1 hc]; decide
  · cases hc

theorem decimal_toDigits (n : Nat) : IntSyntax.decimal (Nat.toDigits 10 n) = n := by
  conv_rhs => rw [← Nat.ofDigitChars_ten_toDigits (n := n)]
  simp only [IntSyntax.decimal, IntSyntax.decimalFrom, Nat.ofDigitChars]
  congr
  funext a c
  rw [Nat.mul_comm]
  rfl

theorem Int64.text_toList (v : Int64) : (Int64.text v).toList =
    (if v.toInt < 0 then ['-'] else []) ++ Nat.toDigits 10 v.toInt.natAbs := by
  unfold Int64.text
  generalize v.toInt = n
  cases n with
  | ofNat m => simp [toString, Int.repr, Nat.repr]
  | negSucc m => simp [toString, Int.repr, Nat.repr, Int.negSucc_lt_zero]

theorem Int64.ascii_text (v : Int64) : Ascii (Int64.text v).toList := by
  rw [Int64.text_toList]
  exact ascii_append.2 ⟨ascii_minus, ascii_of_digits fun c hc =>
    Nat.isDigit_of_mem_toDigits (by decide) (by decide) hc⟩

theorem literal_signed {cs : List Char} (hd : ∀ c ∈ cs, c.isDigit = true) (hne : cs ≠ [])
    (neg : Bool) (hs : Shows src s ((if neg then ['-'] else []) ++ cs)) :
    Literal src false s (s + ((if neg then ['-'] else []) ++ cs).length) ∧
      wholeValue src s (s + ((if neg then ['-'] else []) ++ cs).length) =
        if neg then -(IntSyntax.decimal cs : Int) else IntSyntax.decimal cs := by
  have hlen : 0 < cs.length := List.length_pos_iff.2 hne
  cases neg with
  | true =>
    simp only [if_true] at hs ⊢
    obtain ⟨h₁, h₂⟩ := shows_append.1 hs
    have h45 : Utf8.byteAt src s = 45 := by rw [(shows_single.1 h₁).2]; rfl
    simp only [List.length_append, List.length_singleton] at h₂ ⊢
    rw [← Nat.add_assoc]
    refine ⟨.whole (.inr ⟨rfl, h45⟩) (run_of_shows h₂ fun c hc => isDigit_byte (hd c hc))
      (by omega), ?_⟩
    rw [wholeValue, if_pos h45, chars_of_shows h₂ (ascii_of_digits hd)]
  | false =>
    simp only [Bool.false_eq_true, if_false, List.nil_append] at hs ⊢
    -- the first byte is a digit, not a sign
    have hfirst : Utf8.byteAt src s ≠ 45 := by
      have hb := hs.2 0 hlen
      rw [Nat.add_zero] at hb
      have := isDigit_byte (hd _ (List.getElem_mem hlen))
      rw [← hb] at this
      intro h
      rw [h] at this
      exact absurd this (by decide)
    refine ⟨.whole (.inl rfl) (run_of_shows hs fun c hc => isDigit_byte (hd c hc)) (by omega), ?_⟩
    rw [wholeValue, if_neg hfirst, chars_of_shows hs (ascii_of_digits hd)]

theorem literal_int (v : Int64) (hs : Shows src s (Int64.text v).toList) :
    Literal src false s (s + (Int64.text v).toList.length) ∧
      wholeValue src s (s + (Int64.text v).toList.length) = v.toInt := by
  rw [Int64.text_toList] at hs ⊢
  have hd : ∀ c ∈ Nat.toDigits 10 v.toInt.natAbs, c.isDigit = true :=
    fun c hc => Nat.isDigit_of_mem_toDigits (by decide) (by decide) hc
  have hne : Nat.toDigits 10 v.toInt.natAbs ≠ [] := Nat.toDigits_ne_nil
  obtain ⟨hl, hv⟩ := literal_signed hd hne (decide (v.toInt < 0))
    (by simpa only [decide_eq_true_eq] using hs)
  simp only [decide_eq_true_eq, decimal_toDigits] at hl hv
  refine ⟨hl, ?_⟩
  rw [hv]
  split_ifs <;> omega

theorem isDigit_digitChar : ∀ d, d < 10 → (Char.ofNat (d + '0'.toNat)).isDigit = true := by
  decide

theorem digitChars_isDigit {ds : List ℕ} (h : ∀ d ∈ ds, d < 10) :
    ∀ c ∈ FloatSyntax.digitChars ds, c.isDigit = true := by
  intro c hc
  obtain ⟨d, hd, rfl⟩ := List.mem_map.1 hc
  exact isDigit_digitChar d (h d hd)

theorem ascii_floatLiteral {x : Float} {neg : Bool} {m : ℕ} {e : ℤ}
    (hx : Binary64.shape x = .finite neg m e) : Ascii (floatLiteral x).toList := by
  have hd := FloatSyntax.digitChars_split_lt
    (FloatSyntax.ofFinite_digit_lt (Binary64.shape_finite hx).2)
  have hWd := digitChars_isDigit fun d h => hd d (List.mem_append_left _ h)
  have hFd := digitChars_isDigit fun d h => hd d (List.mem_append_right _ h)
  rw [FloatSyntax.floatLiteral_toList hx, ascii_append, ascii_append]
  refine ⟨ascii_minus, ascii_of_digits hWd, fun c hc => ?_⟩
  rcases List.mem_cons.1 hc with rfl | hc
  · decide
  · exact ascii_of_digits hFd c hc

theorem literal_float {x : Float} {neg : Bool} {m : ℕ} {e : ℤ}
    (hx : Binary64.shape x = .finite neg m e) (hs : Shows src s (floatLiteral x).toList) :
    Literal src true s (s + (floatLiteral x).toList.length) := by
  have hd := FloatSyntax.digitChars_split_lt
    (FloatSyntax.ofFinite_digit_lt (Binary64.shape_finite hx).2)
  generalize hW : FloatSyntax.wholeDigits (Shortest.ofFinite m e) = W at hd
  generalize hF : FloatSyntax.literalFrac (Shortest.ofFinite m e) = F at hd
  have hFne : F ≠ [] := by
    rw [← hF, FloatSyntax.literalFrac]
    split_ifs with h
    · simp
    · exact h
  have hWd := digitChars_isDigit fun d h => hd d (List.mem_append_left _ h)
  have hFd := digitChars_isDigit fun d h => hd d (List.mem_append_right _ h)
  -- the digits, the point and the digits after it, from any offset
  have hbody : ∀ a, Shows src a (FloatSyntax.digitChars W ++ '.' :: FloatSyntax.digitChars F) →
      ∃ b, Run Parser.isDigit src a b ∧ Utf8.byteAt src b = 46 ∧
        Run Parser.isDigit src (b + 1) (a + (FloatSyntax.digitChars W ++
          '.' :: FloatSyntax.digitChars F).length) ∧
        b + 1 < a + (FloatSyntax.digitChars W ++ '.' :: FloatSyntax.digitChars F).length := by
    intro a ha
    obtain ⟨h₁, h₂⟩ := shows_append.1 ha
    obtain ⟨h₃, h₄⟩ := shows_cons.1 h₂
    have hlen : 0 < (FloatSyntax.digitChars F).length := by
      simpa [FloatSyntax.length_digitChars] using List.length_pos_iff.2 hFne
    refine ⟨_, run_of_shows h₁ fun c hc => isDigit_byte (hWd c hc),
      by rw [(shows_single.1 h₃).2]; rfl, ?_, ?_⟩
    · have hend : a + (FloatSyntax.digitChars W ++ '.' :: FloatSyntax.digitChars F).length =
          a + (FloatSyntax.digitChars W).length + 1 + (FloatSyntax.digitChars F).length := by
        simp only [List.length_append, List.length_cons]
        omega
      rw [hend]
      exact run_of_shows h₄ fun c hc => isDigit_byte (hFd c hc)
    · simp only [List.length_append, List.length_cons]
      omega
  rw [FloatSyntax.floatLiteral_toList hx, hW, hF] at hs ⊢
  cases neg with
  | false =>
    simp only [Bool.false_eq_true, if_false, List.nil_append] at hs ⊢
    obtain ⟨b, hrun, hdot, hrun', hlt⟩ := hbody s hs
    exact .fraction (.inl rfl) hrun hdot hrun' hlt
  | true =>
    simp only [if_true] at hs ⊢
    obtain ⟨h₁, h₂⟩ := shows_append.1 hs
    have h45 : Utf8.byteAt src s = 45 := by rw [(shows_single.1 h₁).2]; rfl
    obtain ⟨b, hrun, hdot, hrun', hlt⟩ := hbody _ h₂
    simp only [List.length_append, List.length_singleton] at hrun' hlt ⊢
    rw [← Nat.add_assoc]
    exact .fraction (.inr ⟨rfl, h45⟩) hrun hdot hrun' hlt

theorem byte_lt_of_shows {cs : List Char} (hs : Shows src s cs) (ha : Ascii cs) {k : Nat}
    (h₁ : s ≤ k) (h₂ : k < s + cs.length) : Utf8.byteAt src k < 128 := by
  have hk := hs.2 (k - s) (by omega)
  rw [show s + (k - s) = k by omega] at hk
  rw [hk, UInt8.lt_iff_toNat_lt, toNat_byte (ha _ (List.getElem_mem _))]
  exact ha _ (List.getElem_mem _)

theorem toText_of_shows {str : String} (hs : Shows src s str.toList) (ha : Ascii str.toList) :
    Utf8.toText (src.extract s (s + str.length)) = str := by
  rw [← String.length_toList, toText_extract hs.1 fun k h₁ h₂ => byte_lt_of_shows hs ha h₁ h₂,
    chars_of_shows hs ha, String.ofList_toList]

theorem build_int_text (v : Int64) (hs : Shows src s (Int64.text v).toList) :
    Build.node src ((Term.lit false s (s + (Int64.text v).length)).node src) =
      .ok (.int (Term.lit false s (s + (Int64.text v).length)).span v) := by
  obtain ⟨hl, hval⟩ := literal_int v hs
  rw [String.length_toList] at hl hval
  generalize s + (Int64.text v).length = j at hl hval ⊢
  have hcontent : (Node.leaf (literalKind false) s j).content src = src.extract s j :=
    clampedSlice_nat (Nat.le_of_lt hl.lt) hl.le_size
  rw [build_lit]
  simp only [literalKind, Bool.false_eq_true, if_false] at hcontent ⊢
  rw [Node.leaf] at hcontent ⊢
  rw [Build.node]
  dsimp only
  have hfit : Int64.minValue.toInt ≤ v.toInt ∧ v.toInt ≤ Int64.maxValue.toInt :=
    ⟨Int64.minValue_le_toInt v, Int64.toInt_le v⟩
  rw [hcontent, readInt64_literal hl, hval, if_pos hfit, Int64.ofInt_toInt]
  rfl

theorem build_float_text {b : UInt64} (hb : (b.toNat >>> 52) % 2048 ≠ 2047)
    (hs : Shows src s (floatLiteral (Float.ofBits b)).toList) :
    Build.node src ((Term.lit true s (s + (floatLiteral (Float.ofBits b)).length)).node src) =
      .ok (.float (Term.lit true s (s + (floatLiteral (Float.ofBits b)).length)).span b) := by
  obtain ⟨neg, m, e, hx, hbits⟩ := Binary64.shape_ofBits_of_field hb
  have hl := literal_float hx hs
  have htext := toText_of_shows hs (ascii_floatLiteral hx)
  rw [String.length_toList] at hl
  generalize s + (floatLiteral (Float.ofBits b)).length = j at hl htext ⊢
  have hcontent : (Node.leaf (literalKind true) s j).content src = src.extract s j :=
    clampedSlice_nat (Nat.le_of_lt hl.lt) hl.le_size
  rw [build_lit]
  simp only [literalKind, if_true] at hcontent ⊢
  rw [Node.leaf] at hcontent ⊢
  rw [Build.node]
  dsimp only
  rw [hcontent, htext, FloatSyntax.readBits_floatLiteral hx, hbits]
  rfl

theorem run_space {a : Nat} (h : Shows src a [' ']) : Run Node.blank src a (a + 1) :=
  run_of_shows h fun c hc => by rw [List.mem_singleton.1 hc]; decide

end LiveArith.Syntax.Grammar

namespace LiveArith

open Syntax Grammar

namespace Op

def byte : Op → UInt8
  | .add => 43
  | .subtract => 45
  | .multiply => 42
  | .divide => 47
  | .unknown _ => 0

variable {op : Op}

theorem power_byte (h : op.valid = true) : power op.byte = op.precedence := by
  cases op <;> first | rfl | cases h

theorem symbol_toList (h : op.valid = true) : op.symbol.toList = [Char.ofNat op.byte.toNat] := by
  cases op <;> first | rfl | cases h

theorem leftBound_byte (h : op.valid = true) : leftBound op.byte = op.precedence := by
  cases op <;> first | rfl | cases h

theorem rightBound_byte (h : op.valid = true) : rightBound op.byte = op.precedence + 1 := by
  cases op <;> first | rfl | cases h

theorem precedence_le_two (op : Op) : op.precedence ≤ 2 := by
  unfold precedence
  split <;> omega

theorem ofSymbol_byte (h : op.valid = true) (q : Int) :
    Op.ofSymbol? (Node.token op.byte q).type = some op := by
  cases op with
  | unknown n => cases h
  | _ => simp [token_type, Op.ofSymbol?, Op.symbol, byte]

end Op

namespace Expr

def FiniteFloats : Expr → Prop
  | .float _ b => (b.toNat >>> 52) % 2048 ≠ 2047
  | .paren _ e => e.FiniteFloats
  | .binary _ l _ r => l.FiniteFloats ∧ r.FiniteFloats
  | _ => True

def Printable (e : Expr) : Prop := e.Compilable ∧ e.FiniteFloats

theorem printable_binary {sp : Span} {l : Expr} {op : Op} {r : Expr} :
    (binary sp l op r).Printable ↔ op.valid = true ∧ l.Printable ∧ r.Printable :=
  ⟨fun ⟨⟨hop, hcl, hcr⟩, hfl, hfr⟩ => ⟨hop, ⟨hcl, hfl⟩, hcr, hfr⟩,
    fun ⟨hop, ⟨hcl, hfl⟩, hcr, hfr⟩ => ⟨⟨hop, hcl, hcr⟩, hfl, hfr⟩⟩

def wraps (op : Op) (parent : Nat) (right : Bool) : Bool :=
  op.precedence < parent || (right && op.precedence == parent)

def depthIn : Expr → Nat → Bool → Nat
  | .paren _ e, _, _ => e.depthIn 0 false + 1
  | .binary _ l op r, parent, right =>
    let d := max (l.depthIn op.precedence false) (r.depthIn op.precedence true)
    if wraps op parent right then d + 1 else d
  | _, _, _ => 0

def groupIn : Expr → Nat → Bool → Expr
  | .paren sp e, _, _ => .paren sp (e.groupIn 0 false)
  | .binary sp l op r, parent, right =>
    let b := Expr.binary sp (l.groupIn op.precedence false) op (r.groupIn op.precedence true)
    if wraps op parent right then .paren sp b else b
  | e, _, _ => e

def termIn : Expr → Nat → Nat → Bool → Term
  | .int _ v, s, _, _ => .lit false s (s + (Int64.text v).length)
  | .float _ b, s, _, _ => .lit true s (s + (floatLiteral (Float.ofBits b)).length)
  | .paren _ e, s, _, _ => .paren s (e.termIn (s + 1) 0 false) (s + 1 + (e.textIn 0 false).length)
  | .binary _ l op r, s, parent, right =>
    let a := if wraps op parent right then s + 1 else s
    let q := a + (l.textIn op.precedence false).length + 1
    let body := Term.binary (l.termIn a op.precedence false) op.byte q
      (r.termIn (q + 2) op.precedence true)
    if wraps op parent right then .paren s body body.stop else body
  | .hole, s, _, _ => .lit false s s

theorem textIn_paren (sp : Span) (e : Expr) (parent : Nat) (right : Bool) :
    (paren sp e).textIn parent right = "(" ++ e.textIn 0 false ++ ")" :=
  rfl

theorem textIn_paren_toList (sp : Span) (e : Expr) (parent : Nat) (right : Bool) :
    ((paren sp e).textIn parent right).toList = '(' :: ((e.textIn 0 false).toList ++ [')']) := by
  simp only [textIn, String.toList_append]
  rfl

theorem textIn_binary (sp : Span) (l : Expr) (op : Op) (r : Expr) (parent : Nat) (right : Bool) :
    (binary sp l op r).textIn parent right =
      if wraps op parent right then
        "(" ++ (l.textIn op.precedence false ++ " " ++ op.symbol ++ " " ++
          r.textIn op.precedence true) ++ ")"
      else l.textIn op.precedence false ++ " " ++ op.symbol ++ " " ++ r.textIn op.precedence true :=
  rfl

theorem body_toList {op : Op} (hop : op.valid = true) (l r : Expr) (P : Nat) :
    (l.textIn P false ++ " " ++ op.symbol ++ " " ++ r.textIn P true).toList =
      (l.textIn P false).toList ++
        (' ' :: Char.ofNat op.byte.toNat :: ' ' :: (r.textIn P true).toList) := by
  simp only [String.toList_append, Op.symbol_toList hop, List.append_assoc]
  rfl

theorem wrap_toList (body : String) :
    ("(" ++ body ++ ")").toList = '(' :: (body.toList ++ [')']) := by
  simp only [String.toList_append]
  rfl

theorem termIn_start (e : Expr) (s parent : Nat) (right : Bool) : (e.termIn s parent right).start = s := by
  induction e generalizing s parent right with
  | binary sp l op r ihl ihr =>
    by_cases hw : wraps op parent right
    · simp only [termIn, hw, if_true, Term.start]
    · simp only [termIn, hw, Bool.false_eq_true, if_false, Term.start, ihl]
  | _ => rfl

theorem termIn_depth (e : Expr) (s parent : Nat) (right : Bool) :
    (e.termIn s parent right).depth = e.depthIn parent right := by
  induction e generalizing s parent right with
  | paren sp e ih => simp only [termIn, depthIn, Term.depth, ih]
  | binary sp l op r ihl ihr =>
    by_cases hw : wraps op parent right
    · simp only [termIn, depthIn, hw, if_true, Term.depth, ihl, ihr]
    · simp only [termIn, depthIn, hw, Bool.false_eq_true, if_false, Term.depth, ihl, ihr]
  | _ => rfl

variable {e : Expr}

theorem termIn_stop (he : e.Printable) (s parent : Nat) (right : Bool) :
    (e.termIn s parent right).stop = s + (e.textIn parent right).length := by
  induction e generalizing s parent right with
  | hole => exact he.1.elim
  | int => rfl
  | float => rfl
  | paren sp e ih =>
    simp only [termIn, textIn, Term.stop, String.length_append]
    have : "(".length = 1 := rfl
    have : ")".length = 1 := rfl
    omega
  | binary sp l op r ihl ihr =>
    obtain ⟨hop, hl, hr⟩ := printable_binary.1 he
    have hsym : op.symbol.length = 1 := by rw [← String.length_toList, Op.symbol_toList hop]; rfl
    have h1 : " ".length = 1 := rfl
    have h2 : "(".length = 1 := rfl
    have h3 : ")".length = 1 := rfl
    by_cases hw : wraps op parent right
    · simp only [termIn, textIn_binary, hw, if_true, Term.stop, ihr hr, String.length_append]
      omega
    · simp only [termIn, textIn_binary, hw, Bool.false_eq_true, if_false, Term.stop, ihr hr,
        String.length_append]
      omega

theorem level_termIn (he : e.Printable) (s : Nat) {parent : Nat} (hp : parent ≤ 3) (right : Bool) :
    parent ≤ (e.termIn s parent right).level ∧
      (right = true → parent < (e.termIn s parent right).level) := by
  cases e with
  | hole => exact he.1.elim
  | binary sp l op r =>
    by_cases hw : wraps op parent right
    · simp only [termIn, hw, if_true, Term.level]
      omega
    · simp only [termIn, hw, Bool.false_eq_true, if_false, Term.level, Op.power_byte (printable_binary.1 he).1]
      simp only [wraps, Bool.or_eq_true, decide_eq_true_eq, Bool.and_eq_true, beq_iff_eq,
        not_or, not_and] at hw
      exact ⟨by omega, fun hr => by have := hw.2 hr; omega⟩
  | _ => exact ⟨by simp only [termIn, Term.level]; omega, fun _ => by simp only [termIn, Term.level]; omega⟩

theorem grouped_termIn (he : e.Printable) (s parent : Nat) (right : Bool) :
    Grouped (e.termIn s parent right) := by
  induction e generalizing s parent right with
  | hole => exact he.1.elim
  | int => trivial
  | float => trivial
  | paren sp e ih => exact ih he _ _ _
  | binary sp l op r ihl ihr =>
    obtain ⟨hop, hl, hr⟩ := printable_binary.1 he
    have hbody : ∀ a q, Grouped (Term.binary (l.termIn a op.precedence false) op.byte q
        (r.termIn (q + 2) op.precedence true)) := by
      intro a q
      have hp := Op.precedence_le_two op
      refine ⟨ihl hl _ _ _, ihr hr _ _ _, ?_, ?_⟩
      · rw [Op.leftBound_byte hop]
        exact (level_termIn hl a (by omega) false).1
      · rw [Op.rightBound_byte hop]
        exact (level_termIn hr (q + 2) (by omega) true).2 rfl
    by_cases hw : wraps op parent right
    · simp only [termIn, hw, if_true]
      exact hbody _ _
    · simp only [termIn, hw, Bool.false_eq_true, if_false]
      exact hbody _ _

theorem ascii_textIn (he : e.Printable) (parent : Nat) (right : Bool) :
    Ascii (e.textIn parent right).toList := by
  induction e generalizing parent right with
  | hole => exact he.1.elim
  | int sp v =>
    simp only [textIn]
    exact Int64.ascii_text v
  | float sp b =>
    obtain ⟨neg, m, ex, hx, -⟩ := Binary64.shape_ofBits_of_field he.2
    exact ascii_floatLiteral hx
  | paren sp e ih =>
    rw [textIn_paren_toList]
    exact ascii_wrap (ih he _ _)
  | binary sp l op r ihl ihr =>
    obtain ⟨hop, hl, hr⟩ := printable_binary.1 he
    have hbody : Ascii (l.textIn op.precedence false ++ " " ++ op.symbol ++ " " ++
        r.textIn op.precedence true).toList := by
      rw [body_toList hop, ascii_append, ascii_cons, ascii_cons, ascii_cons]
      refine ⟨ihl hl _ _, by decide, ?_, by decide, ihr hr _ _⟩
      cases op <;> first | decide | cases hop
    rw [textIn_binary]
    split
    · rw [wrap_toList]
      exact ascii_wrap hbody
    · exact hbody

section derives

variable {src : ByteArray}

theorem shows_op {op : Op} {a : Nat} (h : Shows src a [Char.ofNat op.byte.toNat]) :
    Utf8.byteAt src a = op.byte := by
  rw [(shows_single.1 h).2]
  cases op <;> rfl

theorem shows_wrap_inner {s : Nat} {body : String} (hs : Shows src s ("(" ++ body ++ ")").toList) :
    Shows src (s + 1) body.toList :=
  (shows_append.1 (shows_cons.1 (wrap_toList body ▸ hs)).2).1

-- the printer's parentheses hug what they hold: no blank on either side
theorem derives_wrap {s c : Nat} {body : String} {t : Term}
    (hs : Shows src s ("(" ++ body ++ ")").toList) (hstart : t.start = s + 1) (hstop : t.stop = c)
    (hc : c = s + 1 + body.length) (ht : Derives src t) : Derives src (.paren s t c) := by
  rw [wrap_toList] at hs
  obtain ⟨h₁, h₂⟩ := shows_cons.1 hs
  obtain ⟨h₃, h₄⟩ := shows_append.1 h₂
  rw [String.length_toList, ← hc] at h₄
  refine .paren (by rw [(shows_single.1 h₁).2]; rfl)
    (by rw [hstart]; exact Run.refl (by have := h₃.1; omega)) ht
    (by rw [hstop]; exact Run.refl (Nat.le_of_lt (shows_single.1 h₄).1))
    (by rw [(shows_single.1 h₄).2]; rfl)

theorem derives_termIn (he : e.Printable) {s parent : Nat} {right : Bool}
    (hs : Shows src s (e.textIn parent right).toList) : Derives src (e.termIn s parent right) := by
  induction e generalizing s parent right with
  | hole => exact he.1.elim
  | int sp v =>
    have h := (literal_int v hs).1
    rw [String.length_toList] at h
    exact .lit h
  | float sp b =>
    obtain ⟨neg, m, ex, hx, -⟩ := Binary64.shape_ofBits_of_field he.2
    have h := literal_float hx hs
    rw [String.length_toList] at h
    exact .lit h
  | paren sp e ih =>
    rw [textIn_paren] at hs
    exact derives_wrap hs (termIn_start _ _ _ _) (termIn_stop (show e.Printable from he) _ _ _) rfl
      (ih he (shows_wrap_inner hs))
  | binary sp l op r ihl ihr =>
    obtain ⟨hop, hl, hr⟩ := printable_binary.1 he
    -- the operands around the operator, a blank on each side
    have hbody : ∀ a, Shows src a (l.textIn op.precedence false ++ " " ++ op.symbol ++ " " ++
        r.textIn op.precedence true).toList →
        Derives src (Term.binary (l.termIn a op.precedence false) op.byte
          (a + (l.textIn op.precedence false).length + 1)
          (r.termIn (a + (l.textIn op.precedence false).length + 1 + 2) op.precedence true)) := by
      intro a ha
      rw [body_toList hop] at ha
      obtain ⟨h₁, h₂⟩ := shows_append.1 ha
      obtain ⟨h₃, h₄⟩ := shows_cons.1 h₂
      obtain ⟨h₅, h₆⟩ := shows_cons.1 h₄
      obtain ⟨h₇, h₈⟩ := shows_cons.1 h₆
      rw [String.length_toList] at h₃ h₅ h₇ h₈
      refine .binary (ihl hl h₁) (by rw [termIn_stop hl]; exact run_space h₃) (shows_op h₅)
        (by rw [Op.power_byte hop]; cases op <;> first | decide | cases hop)
        (by rw [termIn_start]; exact run_space h₇) (ihr hr h₈)
    rw [textIn_binary] at hs
    by_cases hw : wraps op parent right
    · rw [if_pos hw] at hs
      simp only [termIn, hw, if_true]
      refine derives_wrap hs (by rw [Term.start, termIn_start]) rfl ?_ (hbody _ (shows_wrap_inner hs))
      rw [Term.stop, termIn_stop hr, ← String.length_toList (s := _ ++ _), body_toList hop]
      simp only [List.length_append, List.length_cons, String.length_toList]
      omega
    · rw [if_neg hw] at hs
      simp only [termIn, hw, Bool.false_eq_true, if_false]
      exact hbody s hs

theorem build_termIn (he : e.Printable) {s parent : Nat} {right : Bool}
    (hs : Shows src s (e.textIn parent right).toList) :
    ∃ x, Build.node src ((e.termIn s parent right).node src) = .ok x ∧
      x.erase = (e.groupIn parent right).erase := by
  induction e generalizing s parent right with
  | hole => exact he.1.elim
  | int sp v => exact ⟨_, build_int_text v hs, rfl⟩
  | float sp b => exact ⟨_, build_float_text he.2 hs, rfl⟩
  | paren sp e ih =>
    rw [textIn_paren] at hs
    obtain ⟨x, hx, hxe⟩ := ih he (shows_wrap_inner hs)
    refine ⟨.paren _ x, by rw [termIn, build_paren, hx]; rfl, ?_⟩
    show Expr.paren {} x.erase = Expr.paren {} (e.groupIn 0 false).erase
    rw [hxe]
  | binary sp l op r ihl ihr =>
    obtain ⟨hop, hl, hr⟩ := printable_binary.1 he
    -- the operation itself, without the parentheses the printer may put around it
    have hbody : ∀ a, Shows src a (l.textIn op.precedence false ++ " " ++ op.symbol ++ " " ++
        r.textIn op.precedence true).toList →
        ∃ x, Build.node src ((Term.binary (l.termIn a op.precedence false) op.byte
          (a + (l.textIn op.precedence false).length + 1)
          (r.termIn (a + (l.textIn op.precedence false).length + 1 + 2) op.precedence
            true)).node src) = .ok x ∧
        x.erase = (binary sp (l.groupIn op.precedence false) op
          (r.groupIn op.precedence true)).erase := by
      intro a ha
      rw [body_toList hop] at ha
      obtain ⟨h₁, h₂⟩ := shows_append.1 ha
      obtain ⟨-, h₄⟩ := shows_cons.1 h₂
      obtain ⟨-, h₆⟩ := shows_cons.1 h₄
      obtain ⟨-, h₈⟩ := shows_cons.1 h₆
      rw [String.length_toList] at h₈
      have h₉ : Shows src (a + (l.textIn op.precedence false).length + 1 + 2)
          (r.textIn op.precedence true).toList := h₈
      obtain ⟨x, hx, hxe⟩ := ihl hl h₁
      obtain ⟨y, hy, hye⟩ := ihr hr h₉
      refine ⟨.binary _ x op y, by rw [build_binary, hx]; simp only [Op.ofSymbol_byte hop, hy]; rfl,
        ?_⟩
      show Expr.binary {} x.erase op y.erase =
          Expr.binary {} (l.groupIn op.precedence false).erase op (r.groupIn op.precedence true).erase
      rw [hxe, hye]
    rw [textIn_binary] at hs
    by_cases hw : wraps op parent right
    · rw [if_pos hw] at hs
      obtain ⟨x, hx, hxe⟩ := hbody _ (shows_wrap_inner hs)
      refine ⟨.paren _ x, by simp only [termIn, hw, if_true]; rw [build_paren, hx]; rfl, ?_⟩
      simp only [groupIn, hw, if_true]
      show Expr.paren {} x.erase = Expr.paren {} _
      rw [hxe]
    · rw [if_neg hw] at hs
      obtain ⟨x, hx, hxe⟩ := hbody s hs
      refine ⟨x, ?_, ?_⟩
      · simp only [termIn, hw, Bool.false_eq_true, if_false]
        exact hx
      · simp only [groupIn, hw, Bool.false_eq_true, if_false]
        exact hxe

end derives

theorem textIn_erase (x : Expr) (parent : Nat) (right : Bool) :
    x.erase.textIn parent right = x.textIn parent right := by
  induction x generalizing parent right with
  | paren sp e ih => simp only [erase, textIn, ih]
  | binary sp l op r ihl ihr => simp only [erase, textIn, ihl, ihr]
  | _ => rfl

theorem textIn_groupIn (e : Expr) (parent : Nat) (right : Bool) :
    (e.groupIn parent right).textIn parent right = e.textIn parent right := by
  induction e generalizing parent right with
  | paren sp e ih => simp only [groupIn, textIn_paren, ih]
  | binary sp l op r ihl ihr =>
    -- inside its own parentheses the operation sits under binding power 0
    have hin : wraps op 0 false = false := by simp [wraps]
    by_cases hw : wraps op parent right
    · simp only [groupIn, hw, if_true, textIn_paren, textIn_binary, hin, Bool.false_eq_true,
        if_false, ihl, ihr]
    · simp only [groupIn, hw, Bool.false_eq_true, if_false, textIn_binary, ihl, ihr]
  | _ => rfl

theorem text_parses_and_builds_grouped (limits : Limits) (e : Expr) (he : e.Printable)
    (hsize : e.text.toUTF8.size ≤ limits.maxInput) (hdepth : e.depthIn 0 false ≤ limits.maxDepth) :
    ∃ T root x, parse limits e.text.toUTF8 none = .ok T ∧ T.root = some root ∧
      root.clean = true ∧ Build.tree T.root e.text.toUTF8 = .ok x ∧ x.text = e.text ∧
      x.same (e.groupIn 0 false) = true := by
  have ha : Ascii e.text.toList := ascii_textIn he 0 false
  have hs : Shows e.text.toUTF8 0 (e.textIn 0 false).toList := shows_toUTF8 _ ha
  have hsz := size_toUTF8_ascii ha
  -- the text spells the term of the printed expression, with no blank before or after it
  have hspells : Spells e.text.toUTF8 limits.maxDepth (e.termIn 0 0 false) :=
    ⟨derives_termIn he hs, by rw [termIn_start]; exact Run.refl (Nat.zero_le _),
      by rw [termIn_stop he, Nat.zero_add, hsz]; exact Run.refl (Nat.le_of_eq hsz.symm),
      by rw [termIn_depth]; exact hdepth⟩
  have hroot := source_spells hspells (grouped_termIn he 0 0 false)
  obtain ⟨x, hx, hxe⟩ := build_termIn he hs
  refine ⟨_, _, x, parse_none hsize, hroot, by simp, ?_, ?_, same_iff.2 hxe⟩
  · rw [hroot, build_tree_term]
    exact hx
  · rw [text, text, ← textIn_erase, hxe, textIn_erase, textIn_groupIn]

end Expr

end LiveArith
