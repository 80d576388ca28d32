import LiveArith.Proofs.Syntax.Steps

/-!
Completeness of the parser. A term that the text derives, grouped as precedence and associativity
require, is exactly what the parser returns for it, provided its parentheses nest within the depth
limit and what follows it cannot extend it (`Stops`).
-/

set_option autoImplicit false

namespace LiveArith.Syntax

open LiveArith.Syntax.Parser

namespace Parser

variable {src : ByteArray} {D : Nat}

@[simp] theorem ofText_src : (Input.ofText src D).src = src := rfl
@[simp] theorem ofText_maxDepth : (Input.ofText src D).maxDepth = D := rfl
@[simp] theorem ofText_get? (k : Int) : (Input.ofText src D).reuse.get? k = none := by
  simp [Input.ofText]
@[simp] theorem peek_ofText (j : Nat) : peek (.ofText src D) j = Utf8.byteAt src j := rfl

end Parser

namespace Grammar

variable {src : ByteArray}

theorem power_le_three (c : UInt8) : power c ≤ 3 := by
  unfold power
  repeat' split
  all_goals omega

theorem power_lt_three {c : UInt8} (h : c ≠ 94) : power c < 3 := by
  unfold power
  split
  · omega
  · split
    · omega
    · rw [if_neg (by simpa using h)]
      omega

theorem power_le_leftBound (op : UInt8) : power op ≤ leftBound op := by
  unfold leftBound
  omega

theorem rightBound_le_four (op : UInt8) : rightBound op ≤ 4 := by
  have := power_le_three op
  unfold rightBound
  split <;> omega

theorem power_lt_rightBound {op c : UInt8} (h : leftBound c ≤ power op) :
    power c < rightBound op := by
  unfold leftBound rightAssoc at h
  unfold rightBound rightAssoc
  have h94 : power 94 = 3 := by decide
  by_cases hc : c = 94
  · subst hc
    have := power_le_three op
    simp only [beq_self_eq_true, if_true] at h
    omega
  · by_cases ho : op = 94
    · subst ho
      have := power_lt_three hc
      simp [hc] at h ⊢
      omega
    · simp [hc, ho] at h ⊢
      omega

theorem blank_eq_false_of_power {c : UInt8} (h : 0 < power c) : Node.blank c = false := by
  rcases (power_pos_iff c).1 h with rfl | rfl | rfl | rfl | rfl | rfl <;> decide

theorem ne_zero_of_power {c : UInt8} (h : 0 < power c) : c ≠ 0 := by
  rintro rfl
  exact absurd h (by decide)

def LitLead (c : UInt8) : Prop := Parser.isDigit c = true ∨ c = 46 ∨ c = 45

theorem LitLead.ne_paren {c : UInt8} (h : LitLead c) : c ≠ 40 := by
  rintro rfl
  revert h
  unfold LitLead
  decide

theorem not_blank_of_lead {c : UInt8} (h : c = 40 ∨ LitLead c) :
    Node.blank c = false ∧ c ≠ 41 ∧ c ≠ 0 := by
  refine ⟨?_, ?_, ?_⟩
  · cases hb : Node.blank c
    · rfl
    · exfalso
      simp only [Node.blank, Bool.or_eq_true, beq_iff_eq] at hb
      unfold LitLead at h
      rcases hb with ((((rfl | rfl) | rfl) | rfl) | rfl) | rfl <;> revert h <;> decide
  · rintro rfl
    revert h
    unfold LitLead
    decide
  · rintro rfl
    revert h
    unfold LitLead
    decide

theorem Run.unique_end {P : UInt8 → Bool} {i q c : Nat} (hq : Run P src i q) (hc : Run P src i c)
    (hq' : P (Utf8.byteAt src q) = false) (hc' : P (Utf8.byteAt src c) = false) : q = c := by
  rcases Nat.lt_trichotomy q c with h | h | h
  · have := hc.2.2 q hq.1 h
    simp_all
  · exact h
  · have := hq.2.2 c hc.1 h
    simp_all

theorem Sign.le {i a : Nat} (h : Sign src i a) : i ≤ a := by
  rcases h with rfl | ⟨rfl, _⟩ <;> omega

namespace Literal

variable {f : Bool} {i j : Nat}

theorem lt (h : Literal src f i j) : i < j := by
  cases h with
  | whole hs _ hlt => have := hs.le; omega
  | fraction hs hd _ _ hlt => have := hs.le; have := hd.1; omega

theorem le_size (h : Literal src f i j) : j ≤ src.size := by
  cases h with
  | whole _ hd _ => exact hd.le_size
  | fraction _ _ _ hd _ => exact hd.le_size

theorem lead (h : Literal src f i j) : LitLead (Utf8.byteAt src i) := by
  cases h with
  | whole hs hd hlt =>
    rcases hs with rfl | ⟨rfl, h45⟩
    · exact .inl (hd.head hlt)
    · exact .inr (.inr h45)
  | fraction hs hd hdot _ _ =>
    rcases hs with rfl | ⟨rfl, h45⟩
    · rcases Nat.eq_or_lt_of_le hd.1 with heq | hlt
      · exact .inr (.inl (heq ▸ hdot))
      · exact .inl (hd.head hlt)
    · exact .inr (.inr h45)

end Literal

namespace Term

def first : Term → Term
  | binary l _ _ _ => l.first
  | t => t

end Term

open Term

namespace Derives

variable {t : Term}

theorem start_lt_stop (h : Derives src t) : t.start < t.stop := by
  induction h with
  | lit hl => exact hl.lt
  | paren _ hopen _ hclose _ ih => simp only [start, stop]; have := hopen.1; have := hclose.1; omega
  | binary _ hrun _ _ hrun2 _ ihl ihr =>
    simp only [start, stop]; have := hrun.1; have := hrun2.1; omega

theorem level_pos (h : Derives src t) : 0 < t.level := by
  cases h with
  | lit => simp [level]
  | paren => simp [level]
  | binary _ _ _ hpow => exact hpow

theorem stop_le_size (h : Derives src t) : t.stop ≤ src.size := by
  induction h with
  | lit hl => exact hl.le_size
  | paren _ _ _ _ h41 => exact lt_size_of_byteAt h41 (by decide)
  | binary _ _ _ _ _ _ _ ihr => exact ihr

theorem lead (h : Derives src t) : Utf8.byteAt src t.start = 40 ∨ LitLead (Utf8.byteAt src t.start) := by
  induction h with
  | lit hl => exact .inr hl.lead
  | paren h40 => exact .inl h40
  | binary _ _ _ _ _ _ ihl _ => exact ihl

theorem litEnd_first (h : Derives src t) (hend : LitEnd src t.stop) : LitEnd src t.first.stop := by
  induction h with
  | lit => exact hend
  | paren => exact hend
  | binary _ hrun hop hpow _ _ ihl _ =>
    exact ihl (litEnd_of_run hrun (litEnd_of_power (hop ▸ hpow)))

end Derives

section nodes

variable {I : Input} {l r : Term} {op : UInt8} {q c : Nat}

theorem wrap_binaryNode (src : ByteArray) (hs : I.src = src) (h : q < r.stop) :
    wrap I (binaryNode (l.node src) op q (r.node src)) = (binary l op q r).node src := by
  subst hs
  have hmax : max (r.node I.src).stop (Node.token op q).stop = (r.stop : Int) := by
    simp only [node_stop, Node.token_stop]
    omega
  simp only [binaryNode, hmax, node_start]
  rfl

theorem wrap_parenNode (src : ByteArray) (hs : I.src = src) (h : r.stop ≤ c) :
    wrap I (parenNode q (r.node src) (Node.token 41 c)) = (paren q r c).node src := by
  subst hs
  have hmax : max (Node.token 41 c).stop (r.node I.src).stop = ((c + 1 : Nat) : Int) := by
    simp only [node_stop, Node.token_stop]
    omega
  simp only [parenNode, hmax]
  rfl

end nodes

def Stops (src : ByteArray) (m j : Nat) : Prop :=
  LitEnd src j ∧
    ∀ q, Run Node.blank src j q → Node.blank (Utf8.byteAt src q) = false →
      power (Utf8.byteAt src q) < m

theorem Stops.mono {m m' j : Nat} (h : Stops src m j) (hm : m ≤ m') : Stops src m' j :=
  ⟨h.1, fun q hq hb => Nat.lt_of_lt_of_le (h.2 q hq hb) hm⟩

theorem stops_of_op {m j q : Nat} (hrun : Run Node.blank src j q)
    (hpow : 0 < power (Utf8.byteAt src q)) (hlt : power (Utf8.byteAt src q) < m) :
    Stops src m j := by
  refine ⟨litEnd_of_run hrun (litEnd_of_power hpow), fun q' hq' hb => ?_⟩
  rw [Run.unique_end hq' hrun hb (blank_eq_false_of_power hpow)]
  exact hlt

theorem stops_of_close {j c : Nat} (hrun : Run Node.blank src j c)
    (h41 : Utf8.byteAt src c = 41) : Stops src 1 j := by
  have hb : Node.blank (Utf8.byteAt src c) = false := by rw [h41]; decide
  refine ⟨litEnd_of_run hrun (by unfold LitEnd; rw [h41]; decide), fun q' hq' hb' => ?_⟩
  rw [Run.unique_end hq' hrun hb' hb, h41]
  decide

theorem stops_of_end {j : Nat} (hrun : Run Node.blank src j src.size) : Stops src 1 j := by
  have hz : Utf8.byteAt src src.size = 0 := by simp [Utf8.byteAt]
  have hb : Node.blank (Utf8.byteAt src src.size) = false := by rw [hz]; decide
  refine ⟨litEnd_of_run hrun (by unfold LitEnd; rw [hz]; decide), fun q' hq' hb' => ?_⟩
  rw [Run.unique_end hq' hrun hb' hb, hz]
  decide

def RightEnd (src : ByteArray) : Term → Prop
  | binary _ op _ r => Stops src (rightBound op) r.stop
  | _ => True

theorem rightEnd_of_stops {t : Term} {m : Nat} (hm : m ≤ t.level) (hs : Stops src m t.stop) :
    RightEnd src t := by
  cases t with
  | binary l op q r =>
    exact hs.mono (Nat.le_trans hm (by unfold rightBound; simp only [level]; omega))
  | lit => trivial
  | paren => trivial

theorem rightEnd_left {l : Term} {op : UInt8} {q : Nat} (hrun : Run Node.blank src l.stop q)
    (hop : Utf8.byteAt src q = op) (hpow : 0 < power op) (hlb : leftBound op ≤ l.level) :
    RightEnd src l := by
  cases l with
  | binary l' op' q' r' =>
    subst hop
    exact stops_of_op hrun hpow (power_lt_rightBound hlb)
  | lit => trivial
  | paren => trivial

def FirstOk (src : ByteArray) (D : Nat) (t : Term) : Prop :=
  ∀ p d k, Derives src t → Grouped t → d + t.depth ≤ D → LitEnd src t.first.stop →
    Run Node.blank src p t.start →
    (operand (.ofText src D) p d k).result = (some (t.first.node src), t.first.stop)

def SpineOk (src : ByteArray) (D : Nat) (t : Term) : Prop :=
  ∀ m d k, Derives src t → Grouped t → m ≤ t.level → d + t.depth ≤ D → RightEnd src t →
    ∃ k', (climb (.ofText src D) m (t.first.node src) t.first.stop d k).result =
      (climb (.ofText src D) m (t.node src) t.stop d k').result

variable {D : Nat}

theorem expression_of_ok {t : Term} (hA : FirstOk src D t) (hB : SpineOk src D t)
    {m p d k : Nat} (hd : Derives src t) (hg : Grouped t) (hm : m ≤ t.level)
    (hs : Stops src m t.stop) (hdep : d + t.depth ≤ D) (hp : Run Node.blank src p t.start) :
    (expression (.ofText src D) m p d k).result = (some (t.node src), t.stop) := by
  have hop := hA p d k hd hg hdep (hd.litEnd_first hs.1) hp
  have hnode : (operand (.ofText src D) p d k).node = some (t.first.node src) :=
    congrArg Prod.fst hop
  have hpos : (operand (.ofText src D) p d k).pos = t.first.stop := congrArg Prod.snd hop
  rw [expression_some _ hnode, hpos]
  obtain ⟨k', hk'⟩ := hB m d _ hd hg hm hdep (rightEnd_of_stops hm hs)
  -- the climb ends where the blanks after the term end
  obtain ⟨hrun, hb⟩ := run_skipBlank (Input.ofText src D) (p := t.stop) hd.stop_le_size
  rw [hk', climb_stop _ rfl rfl (.inr (.inl (hs.2 _ hrun hb)))]

theorem firstOk_lit (f : Bool) (i j : Nat) {D : Nat} : FirstOk src D (.lit f i j) := by
  intro p d k hd _ _ hend hp
  cases hd with
  | lit hl =>
  have hq : skipBlank (.ofText src D) p = i :=
    skipBlank_of_run _ hp (not_blank_of_lead (.inr hl.lead)).1
  have hlead : LitLead (peek (.ofText src D) (skipBlank (.ofText src D) p)) := hq ▸ hl.lead
  have hscan : scanNumber (.ofText src D) (skipBlank (.ofText src D) p) = (literalKind f, j) := by
    rw [hq]
    exact scanNumber_of_literal _ hl hend
  rw [operand_fresh _ (ofText_get? _), fresh_literal _ _ hlead.ne_paren hlead hscan (hq ▸ hl.lt),
    hq]
  rfl

theorem parenthesized_of_ok {i c : Nat} {t : Term} (ht : FirstOk src D t ∧ SpineOk src D t)
    {d k : Nat} (hd : Derives src (.paren i t c)) (hg : Grouped t) (hdep : d + (t.depth + 1) ≤ D) :
    (parenthesized (.ofText src D) i d k).result = (some ((paren i t c).node src), c + 1) := by
  cases hd with
  | paren h40 hopen hdt hclose h41 =>
  have hi : i < src.size := lt_size_of_byteAt h40 (by decide)
  have hc : c < src.size := lt_size_of_byteAt h41 (by decide)
  have hlead := not_blank_of_lead hdt.lead
  have hq1 : skipBlank (.ofText src D) (i + 1) = t.start := skipBlank_of_run _ hopen hlead.1
  have hq2 : skipBlank (.ofText src D) t.stop = c :=
    skipBlank_of_run _ hclose (by rw [ofText_src, h41]; decide)
  have hstart : t.start ≤ src.size :=
    Nat.le_of_lt (Nat.lt_of_lt_of_le hdt.start_lt_stop hdt.stop_le_size)
  -- the inner term is read whole, one level deeper, up to the closing parenthesis
  have hinner := expression_of_ok ht.1 ht.2 (m := 1) (p := skipBlank (.ofText src D) (i + 1))
    (d := d + 1) (k := k) hdt hg hdt.level_pos (stops_of_close hclose h41) (by omega)
    (by rw [hq1]; exact Run.refl hstart)
  have hnode := congrArg Prod.fst hinner
  have hpos := congrArg Prod.snd hinner
  simp only [Parsed.result] at hnode hpos
  have hne : ¬(peek (.ofText src D) (skipBlank (.ofText src D) (i + 1)) = 41 ∧
      skipBlank (.ofText src D) (i + 1) < (Input.ofText src D).src.size) := by
    rw [hq1]
    exact fun h => hlead.2.1 h.1
  rw [parenthesized_inner _ (by simp only [ofText_maxDepth]; omega) hi hne]
  simp only [hnode, hpos, Option.getD_some, hq2, peek_ofText, h41, ofText_src, hc, and_self,
    if_true]
  rw [wrap_parenNode (I := .ofText src D) src rfl hclose.1]

theorem firstOk_paren {i c : Nat} {t : Term} (ht : FirstOk src D t ∧ SpineOk src D t) :
    FirstOk src D (.paren i t c) := by
  intro p d k hd hg hdep _ hp
  have h40 : Utf8.byteAt src i = 40 := by cases hd; assumption
  have hi : i < src.size := lt_size_of_byteAt h40 (by decide)
  have hq : skipBlank (.ofText src D) p = i :=
    skipBlank_of_run _ hp (not_blank_of_lead (.inl h40)).1
  rw [operand_fresh _ (ofText_get? _), fresh_paren _ _ (by rw [hq]; exact h40) (by rw [hq]; exact hi),
    hq]
  exact parenthesized_of_ok ht hd hg hdep

theorem firstOk_binary {l r : Term} {op : UInt8} {q : Nat} (hl : FirstOk src D l) :
    FirstOk src D (.binary l op q r) := by
  intro p d k hd hg hdep hend hp
  cases hd with
  | binary hdl =>
  simp only [depth] at hdep
  exact hl p d k hdl hg.1 (by omega) hend hp

theorem spineOk_of_first {t : Term} (h : t.first = t) : SpineOk src D t := by
  intro _ _ k _ _ _ _ _
  exact ⟨k, by rw [h]⟩

theorem spineOk_binary {l r : Term} {op : UInt8} {q : Nat} (hl : SpineOk src D l)
    (hr : FirstOk src D r ∧ SpineOk src D r) : SpineOk src D (.binary l op q r) := by
  intro m d k hd hg hm hdep hend
  cases hd with
  | binary hdl hrun hop hpow hrun2 hdr =>
  obtain ⟨hgl, hgr, hlb, hrb⟩ := hg
  simp only [level] at hm
  simp only [depth] at hdep
  have hb := blank_eq_false_of_power (hop ▸ hpow)
  have hqs : q < src.size := lt_size_of_byteAt hop (ne_zero_of_power hpow)
  have hq : skipBlank (.ofText src D) l.stop = q := skipBlank_of_run _ hrun hb
  have hq2 : skipBlank (.ofText src D) (q + 1) = r.start :=
    skipBlank_of_run _ hrun2 (not_blank_of_lead hdr.lead).1
  have hstart : r.start ≤ src.size :=
    Nat.le_of_lt (Nat.lt_of_lt_of_le hdr.start_lt_stop hdr.stop_le_size)
  -- the left operand climbs up to the operator, which then takes the right operand
  obtain ⟨k1, h1⟩ := hl m d k hdl hgl
    (Nat.le_trans hm (Nat.le_trans (power_le_leftBound op) hlb)) (by omega)
    (rightEnd_left hrun hop hpow hlb)
  have hright := expression_of_ok hr.1 hr.2 (m := rightBound op)
    (p := skipBlank (.ofText src D) (q + 1)) (d := d) (k := k1) hdr hgr hrb hend (by omega)
    (by rw [hq2]; exact Run.refl hstart)
  have hnode := congrArg Prod.fst hright
  have hpos := congrArg Prod.snd hright
  simp only [Parsed.result] at hnode hpos
  refine ⟨(expression (.ofText src D) (rightBound op) (skipBlank (.ofText src D) (q + 1)) d k1).reused,
    ?_⟩
  rw [show (binary l op q r).first = l.first from rfl, h1,
    climb_step _ hq hop hpow hm hqs]
  simp only [hnode]
  rw [hpos, wrap_binaryNode (I := .ofText src D) src rfl (Nat.lt_of_lt_of_le (Nat.lt_succ_self q)
    (Nat.le_trans hrun2.1 (Nat.le_of_lt hdr.start_lt_stop)))]
  rfl

theorem ok (t : Term) : FirstOk src D t ∧ SpineOk src D t := by
  induction t with
  | lit f i j => exact ⟨firstOk_lit f i j, spineOk_of_first rfl⟩
  | paren i t c ih => exact ⟨firstOk_paren ih, spineOk_of_first rfl⟩
  | binary l op q r ihl ihr => exact ⟨firstOk_binary ihl.1, spineOk_binary ihl.2 ihr⟩

theorem expression_complete {t : Term} {m p d k : Nat} (hd : Derives src t) (hg : Grouped t)
    (hm : m ≤ t.level) (hs : Stops src m t.stop) (hdep : d + t.depth ≤ D)
    (hp : Run Node.blank src p t.start) :
    (expression (.ofText src D) m p d k).result = (some (t.node src), t.stop) :=
  expression_of_ok (ok t).1 (ok t).2 hd hg hm hs hdep hp

theorem parenthesized_complete {i c d k : Nat} {t : Term} (hd : Derives src (.paren i t c))
    (hg : Grouped t) (hdep : d + (t.depth + 1) ≤ D) :
    (parenthesized (.ofText src D) i d k).result = (some ((paren i t c).node src), c + 1) :=
  parenthesized_of_ok (ok t) hd hg hdep

end Grammar

end LiveArith.Syntax
