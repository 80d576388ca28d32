import LiveArith.Proofs.Syntax.Printed

/-!
Phrases: texts that are expressions wherever they stand. A list of one-byte characters is a phrase
nested `D` deep when, at whatever offset its bytes stand in a source, they derive a term over
exactly those bytes, nested at most `D` deep, whose tokens building accepts.
-/

set_option autoImplicit false

namespace LiveArith.Syntax.Grammar

variable {src : ByteArray} {s : Nat}

def Phrase (cs : List Char) (D : Nat) : Prop :=
  Ascii cs ∧ ∀ src s, Shows src s cs → ∃ t, Derives src t ∧ t.start = s ∧
    t.stop = s + cs.length ∧ t.depth ≤ D ∧ ∀ k ∈ t.tokens, ¬k.Rejected src

theorem Phrase.mono {cs : List Char} {D D' : Nat} (h : Phrase cs D) (hD : D ≤ D') : Phrase cs D' :=
  ⟨h.1, fun src s hs => by
    obtain ⟨t, hd, h0, h1, h2, h3⟩ := h.2 src s hs
    exact ⟨t, hd, h0, h1, Nat.le_trans h2 hD, h3⟩⟩

theorem phrase_literal {cs : List Char} (ha : Ascii cs)
    (h : ∀ src s, Shows src s cs → ∃ f, Literal src f s (s + cs.length) ∧
      ¬(Token.literal f s (s + cs.length)).Rejected src) : Phrase cs 0 :=
  ⟨ha, fun src s hs => by
    obtain ⟨f, hl, hr⟩ := h src s hs
    refine ⟨.lit f s (s + cs.length), .lit hl, rfl, rfl, Nat.le_refl 0, fun k hk => ?_⟩
    rw [Term.tokens, List.mem_singleton] at hk
    exact hk ▸ hr⟩

theorem Phrase.paren {cs : List Char} {D : Nat} (h : Phrase cs D) :
    Phrase ('(' :: (cs ++ [')'])) (D + 1) :=
  ⟨ascii_wrap h.1, fun src s hs => by
    obtain ⟨hopen, hrest⟩ := shows_cons.1 hs
    obtain ⟨hin, hclose⟩ := shows_append.1 hrest
    obtain ⟨t, hd, h0, h1, h2, h3⟩ := h.2 src (s + 1) hin
    have h40 : Utf8.byteAt src s = 40 := by rw [(shows_single.1 hopen).2]; rfl
    have h41 : Utf8.byteAt src (s + 1 + cs.length) = 41 := by rw [(shows_single.1 hclose).2]; rfl
    refine ⟨.paren s t (s + 1 + cs.length), .paren h40 (h0 ▸ Run.refl ?_) hd (h1 ▸ Run.refl ?_) h41,
      rfl, ?_, ?_, h3⟩
    · exact Nat.le_of_lt (Nat.lt_of_lt_of_le hd.start_lt_stop hd.stop_le_size)
    · exact h1 ▸ hd.stop_le_size
    · simp only [Term.stop, List.length_cons, List.length_append, List.length_nil]
      omega
    · simp only [Term.depth]
      omega⟩

def Arith (c : Char) : Prop := c = '+' ∨ c = '-' ∨ c = '*' ∨ c = '/'

theorem Arith.power {c : Char} (h : Arith c) : 0 < power c.val.toUInt8 := by
  rcases h with rfl | rfl | rfl | rfl <;> decide

theorem Arith.accepted {c : Char} (h : Arith c) (q : Nat) {src : ByteArray} :
    ¬(Token.operator c.val.toUInt8 q).Rejected src := by
  rcases h with rfl | rfl | rfl | rfl <;> simp only [Token.Rejected] <;> decide

theorem Arith.ascii {c : Char} (h : Arith c) : c.toNat < 128 := by
  rcases h with rfl | rfl | rfl | rfl <;> decide

theorem Phrase.binary {a b : List Char} {D : Nat} {c : Char} (ha : Phrase a D) (hb : Phrase b D)
    (hc : Arith c) : Phrase (a ++ ' ' :: c :: ' ' :: b) D :=
  ⟨ascii_append.2 ⟨ha.1, ascii_cons.2 ⟨by decide, ascii_cons.2 ⟨hc.ascii,
    ascii_cons.2 ⟨by decide, hb.1⟩⟩⟩⟩, fun src s hs => by
    obtain ⟨hsa, hrest⟩ := shows_append.1 hs
    obtain ⟨hsp₁, hrest⟩ := shows_cons.1 hrest
    obtain ⟨hop, hrest⟩ := shows_cons.1 hrest
    obtain ⟨hsp₂, hsb⟩ := shows_cons.1 hrest
    obtain ⟨l, hl, hl0, hl1, hl2, hl3⟩ := ha.2 src s hsa
    obtain ⟨r, hr, hr0, hr1, hr2, hr3⟩ := hb.2 src (s + a.length + 1 + 1 + 1) hsb
    have hbyte : Utf8.byteAt src (s + a.length + 1) = c.val.toUInt8 := (shows_single.1 hop).2
    refine ⟨.binary l c.val.toUInt8 (s + a.length + 1) r,
      .binary hl (by rw [hl1]; exact run_space hsp₁) hbyte hc.power
        (by rw [hr0]; exact run_space hsp₂) hr,
      hl0, ?_, ?_, fun k hk => ?_⟩
    · simp only [Term.stop, hr1, List.length_append, List.length_cons]
      omega
    · simp only [Term.depth]
      omega
    · rw [Term.tokens, List.mem_append, List.mem_cons] at hk
      rcases hk with hk | rfl | hk
      · exact hl3 k hk
      · exact hc.accepted _
      · exact hr3 k hk⟩

theorem decimalFrom_digitChars {ds : List ℕ} (hd : ∀ d ∈ ds, d < 10) (n : ℕ) :
    IntSyntax.decimalFrom n (FloatSyntax.digitChars ds) = ds.foldl (fun n d => 10 * n + d) n := by
  induction ds generalizing n with
  | nil => rfl
  | cons d ds ih =>
    have hc : (Char.ofNat (d + '0'.toNat)).toNat - 48 = d :=
      (FloatSyntax.digit_char d (hd d (.head _))).2.2.2.1
    simp only [FloatSyntax.digitChars, List.map_cons, IntSyntax.decimalFrom, List.foldl_cons]
      at ih ⊢
    rw [hc, Nat.mul_comm]
    exact ih (fun x hx => hd x (.tail _ hx)) _

theorem decimal_digitChars {ds : List ℕ} (hd : ∀ d ∈ ds, d < 10) :
    IntSyntax.decimal (FloatSyntax.digitChars ds) = Shortest.whole ds :=
  decimalFrom_digitChars hd 0

theorem whole_lt_of_fracDigits_nil {x : Float} {neg : Bool} {m : ℕ} {e : ℤ}
    (hx : Binary64.shape x = .finite neg m e)
    (hF : FloatSyntax.fracDigits (Shortest.ofFinite m e) = []) :
    (Shortest.whole (FloatSyntax.wholeDigits (Shortest.ofFinite m e)) : ℚ) < 2 ^ (e + 53) := by
  -- with no digits after the point the whole part is the value of the digits
  have hv := FloatSyntax.literalFrac_value (Shortest.ofFinite m e)
  rw [FloatSyntax.literalFrac, if_pos hF, Shortest.whole_append] at hv
  have hw : (Shortest.whole (FloatSyntax.wholeDigits (Shortest.ofFinite m e)) : ℚ) =
      (Shortest.ofFinite m e).value := by
    rw [← hv]
    simp [show Shortest.whole [0] = 0 from rfl]
  rw [hw]
  rcases (Binary64.shape_finite hx).2 with ⟨rfl, -⟩ | hc
  · simp [Shortest.ofFinite, Digits.value, Shortest.whole]
    positivity
  · exact (Shortest.Reads.bounds hc (Shortest.ofFinite_fits hc).reads).2

theorem phrase_int64 (v : Int64) : Phrase (Int64.text v).toList 0 := by
  refine phrase_literal (Int64.ascii_text v) fun src s hs => ⟨false, (literal_int v hs).1, ?_⟩
  rw [Token.Rejected, (literal_int v hs).2, not_not]
  exact ⟨Int64.minValue_le_toInt v, Int64.toInt_le v⟩

theorem phrase_fixed {x : Float} {neg : Bool} {m : ℕ} {e : ℤ}
    (hx : Binary64.shape x = .finite neg m e) (he : e + 53 ≤ 63) :
    Phrase (Layout.fixed x).toList 0 := by
  have hd := FloatSyntax.digitChars_split_lt (FloatSyntax.ofFinite_digit_lt (Binary64.shape_finite hx).2)
  by_cases hF : FloatSyntax.fracDigits (Shortest.ofFinite m e) = []
  · -- no digits after the point: an integer literal, and below `2^63`
    have hW : ∀ d ∈ FloatSyntax.wholeDigits (Shortest.ofFinite m e), d < 10 :=
      fun d h => hd d (List.mem_append_left _ h)
    have hcs := digitChars_isDigit hW
    have hne : FloatSyntax.digitChars (FloatSyntax.wholeDigits (Shortest.ofFinite m e)) ≠ [] := by
      simpa [FloatSyntax.digitChars] using FloatSyntax.wholeDigits_ne_nil _
    have hlt : (Shortest.whole (FloatSyntax.wholeDigits (Shortest.ofFinite m e)) : Int) < 2 ^ 63 := by
      have h := whole_lt_of_fracDigits_nil hx hF
      have h63 : (2 : ℚ) ^ (e + 53) ≤ 2 ^ (63 : ℤ) := zpow_le_zpow_right₀ (by norm_num) he
      exact_mod_cast lt_of_lt_of_le h h63
    rw [FloatSyntax.fixed_toList hx, if_pos hF, List.append_nil]
    refine phrase_literal (ascii_append.2 ⟨ascii_minus, ascii_of_digits hcs⟩) fun src s hs => ?_
    obtain ⟨hl, hv⟩ := literal_signed hcs hne neg hs
    refine ⟨false, hl, ?_⟩
    rw [Token.Rejected, hv, decimal_digitChars hW, not_not, Int64.toInt_minValue,
      Int64.toInt_maxValue]
    cases neg <;> simp only [Bool.false_eq_true, if_false, if_true] <;> omega
  · -- digits after the point: the float literal, which reads back as the double
    have heq : Layout.fixed x = floatLiteral x := by
      unfold floatLiteral
      rw [hx]
      dsimp only
      rw [if_pos]
      rw [String.contains_char_eq, FloatSyntax.fixed_toList hx, if_neg hF]
      simp
    rw [heq]
    refine phrase_literal (ascii_floatLiteral hx) fun src s hs => ⟨true, literal_float hx hs, ?_⟩
    rw [Token.Rejected, String.length_toList, toText_of_shows hs (ascii_floatLiteral hx),
      FloatSyntax.readBits_floatLiteral hx]
    simp [Except.toBool]

namespace Term

theorem tokens_attach (t o : Term) (op : UInt8) (q : Nat) :
    (t.attach op q o).tokens = t.tokens ++ .operator op q :: o.tokens := by
  induction t with
  | binary l op' q' r _ ihr =>
    unfold attach
    split
    · simp [tokens, ihr]
    · rfl
  | lit => rfl
  | paren => rfl

theorem tokens_join (t r : Term) (op : UInt8) (q : Nat) :
    (t.join op q r).tokens = t.tokens ++ .operator op q :: r.tokens := by
  induction r generalizing t op q with
  | binary l op' q' r ihl ihr =>
    rw [join, ihr, ihl]
    simp [tokens]
  | lit => exact tokens_attach _ _ _ _
  | paren => exact tokens_attach _ _ _ _

@[simp] theorem tokens_regroup (t : Term) : t.regroup.tokens = t.tokens := by
  induction t with
  | lit => rfl
  | paren i t c ih => exact ih
  | binary l op q r ihl ihr => rw [regroup, tokens_join, ihl, ihr, tokens]

end Term

theorem Phrase.spells {str : String} {D : Nat} (h : Phrase str.toList D) :
    ∃ t, Spells str.toUTF8 D t ∧ ∀ k ∈ t.tokens, ¬k.Rejected str.toUTF8 := by
  obtain ⟨t, hd, h0, h1, h2, h3⟩ := h.2 _ 0 (shows_toUTF8 str h.1)
  have hsz := size_toUTF8_ascii h.1
  refine ⟨t, ⟨hd, ?_, ?_, h2⟩, h3⟩
  · rw [h0]
    exact Run.refl (Nat.zero_le _)
  · rw [h1, Nat.zero_add, String.length_toList, hsz]
    exact Run.refl (Nat.le_of_eq hsz.symm)

theorem Phrase.parses {str : String} {D : Nat} (h : Phrase str.toList D) (limits : Limits)
    (hsize : str.toUTF8.size ≤ limits.maxInput) (hdepth : D ≤ limits.maxDepth) :
    ∃ t : Term, ∃ x, t.depth ≤ D ∧
      parse limits str.toUTF8 none = .ok (Parser.source (.ofText str.toUTF8 limits.maxDepth)) ∧
      (Parser.source (.ofText str.toUTF8 limits.maxDepth)).root =
        some ((Node.leaf .source 0 str.toUTF8.size).push .none (t.node str.toUTF8)) ∧
      Build.tree (Parser.source (.ofText str.toUTF8 limits.maxDepth)).root str.toUTF8 = .ok x := by
  obtain ⟨t, hs, hok⟩ := h.spells
  -- the parser returns the term grouped by precedence, over the same tokens
  have hs' : Spells str.toUTF8 limits.maxDepth t.regroup :=
    ⟨hs.derives.regroup, by simpa using hs.before, by simpa using hs.after,
      by simpa using Nat.le_trans hs.depth hdepth⟩
  have hroot := source_spells hs' (grouped_regroup t)
  obtain ⟨x, hx, -⟩ := build_accepted hs'.derives (by rw [Term.tokens_regroup]; exact hok)
  refine ⟨t.regroup, x, by simpa using hs.depth, parse_none hsize, hroot, ?_⟩
  rw [hroot, build_tree_term]
  exact hx

end LiveArith.Syntax.Grammar
