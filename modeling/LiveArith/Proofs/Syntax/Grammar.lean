import LiveArith.Syntax.Parser

/-!
The calculator grammar on its own terms. A term is a literal, a parenthesized term or a binary
operation, and records the offsets of its tokens. `Derives src t` says that the bytes of `src` from
`t.start` to `t.stop` spell `t`, with blanks allowed between tokens.
-/

set_option autoImplicit false

namespace LiveArith.Syntax

def Parser.Input.ofText (src : ByteArray) (maxDepth : Nat) : Parser.Input := ⟨src, {}, maxDepth⟩

mutual
def Node.every (p : Head → Bool) : Node → Bool
  | ⟨h, cs⟩ => p h && Node.everyOf p cs

def Node.everyOf (p : Head → Bool) : List Node → Bool
  | [] => true
  | c :: cs => c.every p && Node.everyOf p cs
end

def Head.sound (h : Head) : Bool := h.kind != .error && !h.missing

def Node.clean (n : Node) : Bool := n.every Head.sound

namespace Node

variable (k : Kind) (a b : Int) (n c : Node) (f : Field)

@[simp] theorem leaf_kind : (leaf k a b).kind = k := rfl
@[simp] theorem leaf_start : (leaf k a b).start = a := rfl
@[simp] theorem leaf_stop : (leaf k a b).stop = b := rfl
@[simp] theorem leaf_children : (leaf k a b).children = [] := rfl
@[simp] theorem leaf_hasError : (leaf k a b).hasError = decide (k = .error) := by
  cases k <;> rfl
@[simp] theorem leaf_missing : (leaf k a b).missing = false := rfl

variable (s : UInt8)

@[simp] theorem token_start : (token s a).start = a := rfl
@[simp] theorem token_stop : (token s a).stop = a + 1 := rfl
@[simp] theorem token_children : (token s a).children = [] := rfl
@[simp] theorem token_hasError : (token s a).hasError = false := rfl
@[simp] theorem token_missing : (token s a).missing = false := rfl

@[simp] theorem push_kind : (n.push f c).kind = n.kind := rfl
@[simp] theorem push_start : (n.push f c).start = n.start := rfl
@[simp] theorem push_stop : (n.push f c).stop = n.stop := rfl
@[simp] theorem push_hasError : (n.push f c).hasError = (n.hasError || c.hasError) := rfl
@[simp] theorem push_missing : (n.push f c).missing = n.missing := rfl
@[simp] theorem push_children :
    (n.push f c).children = n.children ++ [⟨{ c.head with field := f }, c.children⟩] := rfl

theorem everyOf_append (p : Head → Bool) (xs ys : List Node) :
    everyOf p (xs ++ ys) = (everyOf p xs && everyOf p ys) := by
  induction xs with
  | nil => simp [everyOf]
  | cons x xs ih => simp [everyOf, ih, Bool.and_assoc]

@[simp] theorem clean_push : (n.push f c).clean = (n.clean && c.clean) := by
  obtain ⟨h, cs⟩ := n
  obtain ⟨hc, ccs⟩ := c
  simp [clean, push, every, everyOf_append, everyOf, Head.sound, Node.hasError, Bool.and_assoc]

@[simp] theorem clean_leaf : (leaf k a b).clean = decide (k ≠ .error) := by
  cases k <;> rfl

@[simp] theorem clean_token : (token s a).clean = true := by
  simp only [clean, token, every, everyOf, Head.sound]
  split <;> rfl

@[simp] theorem leaf_child? (g : Field) : (leaf k a b).child? g = none := rfl

end Node

namespace Parser

theorem stamp_eq (I : Input) (n : Node) :
    ∃ digest nest, stamp I n = ⟨{ n.head with digest, nest }, n.children⟩ := by
  obtain ⟨h, cs⟩ := n
  unfold stamp
  repeat' split
  all_goals exact ⟨_, _, rfl⟩

section
variable (I : Input) (n c : Node)

@[simp] theorem stamp_kind : (stamp I n).kind = n.kind := by
  obtain ⟨_, _, h⟩ := stamp_eq I n; rw [h]; rfl
@[simp] theorem stamp_start : (stamp I n).start = n.start := by
  obtain ⟨_, _, h⟩ := stamp_eq I n; rw [h]; rfl
@[simp] theorem stamp_stop : (stamp I n).stop = n.stop := by
  obtain ⟨_, _, h⟩ := stamp_eq I n; rw [h]; rfl
@[simp] theorem stamp_children : (stamp I n).children = n.children := by
  obtain ⟨_, _, h⟩ := stamp_eq I n; rw [h]
@[simp] theorem stamp_hasError : (stamp I n).hasError = n.hasError := by
  obtain ⟨_, _, h⟩ := stamp_eq I n; rw [h]; rfl
@[simp] theorem stamp_missing : (stamp I n).missing = n.missing := by
  obtain ⟨_, _, h⟩ := stamp_eq I n; rw [h]; rfl
@[simp] theorem stamp_changed : (stamp I n).changed = n.changed := by
  obtain ⟨_, _, h⟩ := stamp_eq I n; rw [h]; rfl
@[simp] theorem stamp_field : (stamp I n).field = n.field := by
  obtain ⟨_, _, h⟩ := stamp_eq I n; rw [h]; rfl

variable {I n c}

theorem stamp_literal {rest : List Node} (he : n.hasError = false) (hc : n.children = c :: rest)
    (hk : c.kind = .number ∨ c.kind = .float) :
    stamp I n = ⟨{ n.head with
      digest := Digest.literal c.kind (Node.clampedSlice I.src c.start c.stop) }, n.children⟩ := by
  obtain ⟨h, cs⟩ := n
  simp only [Node.hasError] at he hc
  subst hc
  rcases hk with hk | hk <;> simp [stamp, Node.hasError, he, hk]

theorem stamp_paren {rest : List Node} {inner : Node} (he : n.hasError = false)
    (hc : n.children = c :: rest) (hk : c.kind = .parenthesized) (hi : c.child? .inner = some inner) :
    stamp I n = ⟨{ n.head with
      digest := Digest.combine Digest.tagParenthesized [inner.digest]
      nest := inner.nest + 1 }, n.children⟩ := by
  obtain ⟨h, cs⟩ := n
  simp only [Node.hasError] at he hc
  subst hc
  simp [stamp, Node.hasError, he, hk, hi]

theorem stamp_binary {rest : List Node} {l o r : Node} (he : n.hasError = false)
    (hc : n.children = c :: rest) (hk : c.kind = .binary) (hl : c.child? .left = some l)
    (ho : c.child? .operator = some o) (hr : c.child? .right = some r) :
    stamp I n = ⟨{ n.head with
      digest := Digest.combine Digest.tagBinary [l.digest, o.sym.toUInt64, r.digest]
      nest := max l.nest r.nest }, n.children⟩ := by
  obtain ⟨h, cs⟩ := n
  simp only [Node.hasError] at he hc
  subst hc
  simp [stamp, Node.hasError, he, hk, hl, ho, hr]

@[simp] theorem clean_stamp : (stamp I n).clean = n.clean := by
  obtain ⟨_, _, h⟩ := stamp_eq I n
  obtain ⟨hd, cs⟩ := n
  rw [h]
  rfl

theorem wrap_ofText : wrap I c = wrap (.ofText I.src 0) c := rfl

end

end Parser

namespace Grammar

def power (c : UInt8) : Nat :=
  if c == 43 || c == 45 then 1
  else if c == 42 || c == 47 || c == 37 then 2
  else if c == 94 then 3
  else 0

def rightAssoc (c : UInt8) : Bool := c == 94

def leftBound (op : UInt8) : Nat := power op + if rightAssoc op then 1 else 0

def rightBound (op : UInt8) : Nat := power op + if rightAssoc op then 0 else 1

def Run (p : UInt8 → Bool) (src : ByteArray) (i j : Nat) : Prop :=
  i ≤ j ∧ j ≤ src.size ∧ ∀ k, i ≤ k → k < j → p (Utf8.byteAt src k) = true

def Sign (src : ByteArray) (i a : Nat) : Prop :=
  a = i ∨ (a = i + 1 ∧ Utf8.byteAt src i = 45)

/-- A numeric literal over `[i, j)`, with a fraction when `float`: digits with an optional
fraction, or a fraction alone, after an optional minus sign. -/
inductive Literal (src : ByteArray) : Bool → Nat → Nat → Prop
  | whole {i a j : Nat} : Sign src i a → Run Parser.isDigit src a j → a < j →
      Literal src false i j
  | fraction {i a b j : Nat} : Sign src i a → Run Parser.isDigit src a b →
      Utf8.byteAt src b = 46 → Run Parser.isDigit src (b + 1) j → b + 1 < j →
      Literal src true i j

def literalKind (float : Bool) : Kind := if float then .float else .number

/-- A term with the offsets of its tokens: a literal over `[start, stop)`, parentheses at
`start` and `close`, or an operator byte at `pos`. -/
inductive Term where
  | lit (float : Bool) (start stop : Nat)
  | paren (start : Nat) (inner : Term) (close : Nat)
  | binary (left : Term) (op : UInt8) (pos : Nat) (right : Term)
deriving Repr, DecidableEq

namespace Term

def start : Term → Nat
  | lit _ i _ => i
  | paren i _ _ => i
  | binary l _ _ _ => l.start

def stop : Term → Nat
  | lit _ _ j => j
  | paren _ _ c => c + 1
  | binary _ _ _ r => r.stop

def depth : Term → Nat
  | lit .. => 0
  | paren _ t _ => t.depth + 1
  | binary l _ _ r => max l.depth r.depth

def level : Term → Nat
  | binary _ op _ _ => power op
  | _ => 4

def node (src : ByteArray) : Term → Node
  | lit f i j => Parser.wrap (.ofText src 0) (Node.leaf (literalKind f) i j)
  | paren i t c =>
    Parser.wrap (.ofText src 0) ((((Node.leaf .parenthesized i (c + 1)).push .none
      (Node.token 40 i)).push .inner (t.node src)).push .none (Node.token 41 c))
  | binary l op q r =>
    Parser.wrap (.ofText src 0) ((((Node.leaf .binary l.start r.stop).push .left
      (l.node src)).push .operator (Node.token op q)).push .right (r.node src))

end Term

open Term

/-- The bytes of `src` from `t.start` to `t.stop` spell `t`, blanks allowed between tokens. -/
inductive Derives (src : ByteArray) : Term → Prop
  | lit {f : Bool} {i j : Nat} : Literal src f i j → Derives src (.lit f i j)
  | paren {i c : Nat} {t : Term} : Utf8.byteAt src i = 40 → Run Node.blank src (i + 1) t.start →
      Derives src t → Run Node.blank src t.stop c → Utf8.byteAt src c = 41 →
      Derives src (.paren i t c)
  | binary {l r : Term} {op : UInt8} {q : Nat} : Derives src l → Run Node.blank src l.stop q →
      Utf8.byteAt src q = op → 0 < power op → Run Node.blank src (q + 1) r.start →
      Derives src r → Derives src (.binary l op q r)

def Grouped : Term → Prop
  | .lit .. => True
  | .paren _ t _ => Grouped t
  | .binary l op _ r => Grouped l ∧ Grouped r ∧ leftBound op ≤ l.level ∧ rightBound op ≤ r.level

namespace Term

variable (src : ByteArray) (t : Term)

@[simp] theorem node_kind : (t.node src).kind = .expression := by
  cases t <;> simp [node, Parser.wrap]

@[simp] theorem node_start : (t.node src).start = t.start := by
  cases t <;> simp [node, Parser.wrap, start]

@[simp] theorem node_stop : (t.node src).stop = t.stop := by
  cases t <;> simp [node, Parser.wrap, stop]

@[simp] theorem node_hasError : (t.node src).hasError = false := by
  induction t with
  | lit f => cases f <;> rfl
  | paren i t c ih => simp [node, Parser.wrap, ih]
  | binary l op q r ihl ihr => simp [node, Parser.wrap, ihl, ihr]

@[simp] theorem node_clean : (t.node src).clean = true := by
  induction t with
  | lit f => cases f <;> simp [node, Parser.wrap, literalKind]
  | paren i t c ih => simp [node, Parser.wrap, ih]
  | binary l op q r ihl ihr => simp [node, Parser.wrap, ihl, ihr]

@[simp] theorem node_missing : (t.node src).missing = false := by
  cases t <;> simp [node, Parser.wrap]

@[simp] theorem node_nest : (t.node src).nest = t.depth := by
  induction t with
  | lit f => cases f <;> rfl
  | paren i t c ih =>
    rw [node, Parser.wrap, Parser.stamp_paren (by simp) rfl rfl rfl]
    simp only [Node.nest, depth] at ih ⊢
    omega
  | binary l op q r ihl ihr =>
    rw [node, Parser.wrap, Parser.stamp_binary (by simp) rfl rfl rfl rfl rfl]
    simp only [Node.nest, depth] at ihl ihr ⊢
    omega

end Term

end Grammar

end LiveArith.Syntax
