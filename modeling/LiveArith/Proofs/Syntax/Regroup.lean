import LiveArith.Proofs.Syntax.Complete

/-!
Every derivation can be regrouped by precedence. `Derives` allows any grouping of the binary
operations of a text; `Term.regroup` rebuilds a term with the grouping that precedence and
associativity give (`Grouped`), over the same tokens: same span, same nesting, derived from the same
text.
-/

set_option autoImplicit false

namespace LiveArith.Syntax.Grammar

namespace Term

def attach (t : Term) (op : UInt8) (q : Nat) (o : Term) : Term :=
  match t with
  | binary l op' q' r =>
    if power op' < leftBound op then binary l op' q' (r.attach op q o)
    else binary (binary l op' q' r) op q o
  | t => binary t op q o

def join (t : Term) (op : UInt8) (q : Nat) : Term → Term
  | binary l op' q' r => join (join t op q l) op' q' r
  | o => t.attach op q o

def regroup : Term → Term
  | lit f i j => lit f i j
  | paren i t c => paren i t.regroup c
  | binary l op q r => join l.regroup op q r.regroup

variable (t o : Term) (op : UInt8) (q : Nat)

@[simp] theorem start_attach : (t.attach op q o).start = t.start := by
  induction t with
  | binary l op' q' r _ _ => unfold attach; split <;> rfl
  | lit => rfl
  | paren => rfl

@[simp] theorem stop_attach : (t.attach op q o).stop = o.stop := by
  induction t with
  | binary l op' q' r _ ihr => unfold attach; split <;> simp [stop, ihr]
  | lit => rfl
  | paren => rfl

@[simp] theorem depth_attach : (t.attach op q o).depth = max t.depth o.depth := by
  induction t with
  | binary l op' q' r _ ihr =>
    unfold attach
    split
    · simp only [depth, ihr]; omega
    · rfl
  | lit => rfl
  | paren => rfl

theorem level_attach : (t.attach op q o).level = t.level ∨ (t.attach op q o).level = power op := by
  cases t with
  | binary l op' q' r => unfold attach; split <;> simp [level]
  | lit => exact .inr rfl
  | paren => exact .inr rfl

@[simp] theorem start_join : (t.join op q o).start = t.start := by
  induction o generalizing t op q with
  | binary l op' q' r ihl ihr => simp [join, ihl, ihr]
  | lit => simp [join]
  | paren => simp [join]

@[simp] theorem stop_join : (t.join op q o).stop = o.stop := by
  induction o generalizing t op q with
  | binary l op' q' r ihl ihr => simp [join, ihr, stop]
  | lit => simp [join]
  | paren => simp [join]

@[simp] theorem depth_join : (t.join op q o).depth = max t.depth o.depth := by
  induction o generalizing t op q with
  | binary l op' q' r ihl ihr => simp only [join, ihl, ihr, depth]; omega
  | lit => simp [join]
  | paren => simp [join]

@[simp] theorem start_regroup : t.regroup.start = t.start := by
  induction t with
  | binary l op q r ihl _ => simp [regroup, ihl, start]
  | lit => rfl
  | paren => rfl

@[simp] theorem stop_regroup : t.regroup.stop = t.stop := by
  induction t with
  | binary l op q r _ ihr => simp [regroup, ihr, stop]
  | lit => rfl
  | paren => rfl

@[simp] theorem depth_regroup : t.regroup.depth = t.depth := by
  induction t with
  | binary l op q r ihl ihr => simp [regroup, ihl, ihr, depth]
  | lit => rfl
  | paren i t c ih => simp [regroup, ih, depth]

end Term

open Term

theorem power_of_rightAssoc {c : UInt8} (h : rightAssoc c = true) : power c = 3 := by
  unfold rightAssoc at h
  rw [beq_iff_eq.1 h]
  decide

theorem power_lt_of_not_rightAssoc {c : UInt8} (h : rightAssoc c = false) : power c < 3 :=
  power_lt_three (by unfold rightAssoc at h; simpa using h)

theorem rightBound_le_power {op op' : UInt8} (h : power op' < leftBound op) :
    rightBound op' ≤ power op := by
  have := power_le_three op
  unfold leftBound at h
  unfold rightBound
  cases h1 : rightAssoc op <;> cases h2 : rightAssoc op' <;>
    simp only [h1, if_true, if_false, Bool.false_eq_true] at h ⊢
  · omega
  · omega
  · -- only `^` groups to the right, and it binds tightest
    have := power_of_rightAssoc h1
    have := power_lt_of_not_rightAssoc h2
    omega
  · omega

theorem leftBound_le_four (op : UInt8) : leftBound op ≤ 4 := by
  have := power_le_three op
  unfold leftBound
  split <;> omega

theorem grouped_attach {t o : Term} {op : UInt8} {q : Nat} (ht : Grouped t) (ho : Grouped o)
    (hlo : o.level = 4) : Grouped (t.attach op q o) := by
  induction t with
  | binary l op' q' r _ ihr =>
    obtain ⟨hgl, hgr, hlb, hrb⟩ := ht
    unfold attach
    split
    · next hlt =>
      refine ⟨hgl, ihr hgr, hlb, ?_⟩
      rcases level_attach r o op q with h | h <;> rw [h]
      · exact hrb
      · exact rightBound_le_power hlt
    · next hge => exact ⟨⟨hgl, hgr, hlb, hrb⟩, ho, by simp only [level]; omega,
        hlo ▸ rightBound_le_four op⟩
  | lit => exact ⟨trivial, ho, leftBound_le_four op, hlo ▸ rightBound_le_four op⟩
  | paren _ _ _ ih => exact ⟨ht, ho, leftBound_le_four op, hlo ▸ rightBound_le_four op⟩

theorem grouped_join {t o : Term} {op : UInt8} {q : Nat} (ht : Grouped t) (ho : Grouped o) :
    Grouped (t.join op q o) := by
  induction o generalizing t op q with
  | binary l op' q' r ihl ihr => exact ihr (ihl ht ho.1) ho.2.1
  | lit => exact grouped_attach ht ho rfl
  | paren => exact grouped_attach ht ho rfl

theorem grouped_regroup (t : Term) : Grouped t.regroup := by
  induction t with
  | lit => trivial
  | paren _ _ _ ih => exact ih
  | binary l op q r ihl ihr => exact grouped_join ihl ihr

variable {src : ByteArray}

/-- The tokens between two terms joined by an operator. -/
structure Between (src : ByteArray) (t : Term) (op : UInt8) (q : Nat) (o : Term) : Prop where
  before : Run Node.blank src t.stop q
  byte : Utf8.byteAt src q = op
  pos : 0 < power op
  after : Run Node.blank src (q + 1) o.start

theorem derives_attach {t o : Term} {op : UInt8} {q : Nat} (ht : Derives src t)
    (hb : Between src t op q o) (ho : Derives src o) : Derives src (t.attach op q o) := by
  induction ht generalizing q with
  | binary hl hrun hop hpow hrun2 hr _ ihr =>
    unfold attach
    split
    · exact .binary hl hrun hop hpow (by simpa using hrun2)
        (ihr ⟨hb.before, hb.byte, hb.pos, hb.after⟩)
    · exact .binary (.binary hl hrun hop hpow hrun2 hr) hb.before hb.byte hb.pos hb.after ho
  | lit hl => exact .binary (.lit hl) hb.before hb.byte hb.pos hb.after ho
  | paren h40 hopen hd hclose h41 =>
    exact .binary (.paren h40 hopen hd hclose h41) hb.before hb.byte hb.pos hb.after ho

theorem derives_join {t o : Term} {op : UInt8} {q : Nat} (ht : Derives src t)
    (hb : Between src t op q o) (ho : Derives src o) : Derives src (t.join op q o) := by
  induction ho generalizing t op q with
  | binary _ hrun hop hpow hrun2 _ ihl ihr =>
    exact ihr (ihl ht ⟨hb.before, hb.byte, hb.pos, hb.after⟩)
      ⟨by simpa using hrun, hop, hpow, hrun2⟩
  | lit hl => exact derives_attach ht hb (.lit hl)
  | paren h40 hopen hd hclose h41 => exact derives_attach ht hb (.paren h40 hopen hd hclose h41)

theorem Derives.regroup {t : Term} (h : Derives src t) : Derives src t.regroup := by
  induction h with
  | lit hl => exact .lit hl
  | paren h40 hopen _ hclose h41 ih =>
    exact .paren h40 (by simpa using hopen) ih (by simpa using hclose) h41
  | binary _ hrun hop hpow hrun2 _ ihl ihr =>
    exact derives_join ihl ⟨by simpa using hrun, hop, hpow, by simpa using hrun2⟩ ihr

end LiveArith.Syntax.Grammar
