import LiveArith.Syntax.Tree
import LiveArith.Syntax.Digest

/-!
The calculator grammar, read by precedence climbing into a tree that keeps every byte:

    source     := blank* expression? blank*     (anything left over is one ERROR node)
    expression := operand (operator operand)*
    operand    := literal | "(" expression ")"
    literal    := "-"? digit* ("." digit+)?     (at least one digit)
-/

set_option autoImplicit false

namespace LiveArith.Syntax

/-- Limits of a parse. -/
structure Limits where
  maxInput : Nat := 1048576
  maxDepth : Nat := 512
deriving Repr, Inhabited

def Limits.ofRequest (maxInput maxDepth : Int) : Limits :=
  { maxInput := if maxInput ≤ 0 then 1048576 else maxInput.toNat,
    maxDepth := if maxDepth ≤ 0 then 512 else maxDepth.toNat }

/-- Why a text was not parsed. -/
inductive ParseFault where
  | tooLarge
deriving Repr, Inhabited, BEq

def ParseFault.message : ParseFault → String
  | .tooLarge => "input exceeds maximum length"

namespace Parser

/-- What one parse reads: the text, the operands it may reuse, and the depth limit. -/
structure Input where
  src : ByteArray
  reuse : Node.ReuseIndex
  maxDepth : Nat

/-- A result at a cursor no earlier than `p`, with the count of reused operands so far. -/
structure Parsed (p : Nat) where
  node : Option Node
  pos : Nat
  reused : Nat
  le : p ≤ pos

variable (I : Input)

def peek (p : Nat) : UInt8 := Utf8.byteAt I.src p

def skipBlank (p : Nat) : Nat :=
  if h : p < I.src.size then
    if Node.blank (peek I p) then skipBlank (p + 1) else p
  else p
termination_by I.src.size - p

theorem le_skipBlank (p : Nat) : p ≤ skipBlank I p := by
  unfold skipBlank
  split
  · split
    · have := le_skipBlank (p + 1); omega
    · omega
  · omega
termination_by I.src.size - p

def isDigit (c : UInt8) : Bool := 48 ≤ c && c ≤ 57

def digitsEnd (p : Nat) : Nat :=
  if h : p < I.src.size then
    if isDigit (peek I p) then digitsEnd (p + 1) else p
  else p
termination_by I.src.size - p

def scanNumber (p : Nat) : Kind × Nat :=
  let i := if p < I.src.size && peek I p == 45 then p + 1 else p
  let intEnd := digitsEnd I i
  if intEnd + 1 < I.src.size && peek I intEnd == 46 && isDigit (peek I (intEnd + 1)) then
    (.float, digitsEnd I (intEnd + 1))
  else if intEnd > i then (.number, intEnd)
  else (.number, p)

def precedence (c : UInt8) : Nat × Bool :=
  if c == 43 || c == 45 then (1, false)
  else if c == 42 || c == 47 || c == 37 then (2, false)
  else if c == 94 then (3, true)
  else (0, false)

def errorToEnd (p : Nat) : Node :=
  let rec trim (e : Nat) (fuel : Nat) : Nat :=
    match fuel with
    | 0 => e
    | fuel + 1 => if e > p && Node.blank (peek I (e - 1)) then trim (e - 1) fuel else e
  Node.leaf .error p (trim I.src.size I.src.size)

def stamp (n : Node) : Node :=
  if n.hasError then n
  else match n.children with
    | [] => n
    | c :: _ =>
      match c.kind with
      | .number | .float =>
        ⟨{ n.head with digest := Digest.literal c.kind (Node.clampedSlice I.src c.start c.stop) },
          n.children⟩
      | .parenthesized =>
        match c.child? .inner with
        | some inner =>
          ⟨{ n.head with digest := Digest.combine Digest.tagParenthesized [inner.digest],
                         nest := inner.nest + 1 }, n.children⟩
        | none => n
      | .binary =>
        match c.child? .left, c.child? .operator, c.child? .right with
        | some l, some o, some r =>
          ⟨{ n.head with digest := Digest.combine Digest.tagBinary [l.digest, o.sym.toUInt64, r.digest],
                         nest := max l.nest r.nest }, n.children⟩
        | _, _, _ => n
      | _ => n

def wrap (c : Node) : Node :=
  stamp I ((Node.leaf .expression c.start c.stop).push .none c)

def fits (p depth : Nat) (n : Node) : Bool :=
  n.start == (p : Int) && n.stop ≤ (I.src.size : Int) &&
    match n.children with
    | [] => false
    | c :: _ =>
      match c.kind with
      | .number | .float =>
        let (k, e) := scanNumber I p
        k == c.kind && (e : Int) == n.stop &&
          Digest.literal k (Node.clampedSlice I.src n.start n.stop) == n.digest
      | .parenthesized =>
        (n.nest : Int) ≤ (I.maxDepth : Int) - depth &&
          peek I n.start.toNat == 40 && peek I (n.stop.toNat - 1) == 41 &&
          match c.child? .inner with
          | some inner => Digest.combine Digest.tagParenthesized [inner.digest] == n.digest
          | none => false
      | _ => false

def budget (p rank : Nat) : Nat := 4 * (I.src.size - p) + rank

theorem budget_lt_rank {p q a b : Nat} (hq : p ≤ q) (hab : a < b) :
    budget I q a < budget I p b := by
  unfold budget; omega

theorem budget_lt_step {p q a b : Nat} (hq : p < q) (hp : p < I.src.size) (ha : a < 4) :
    budget I q a < budget I p b := by
  unfold budget; omega

theorem le_of_chain {a b c : Nat} (h1 : a ≤ b) (h2 : b ≤ c) : a ≤ c := Nat.le_trans h1 h2

theorem lt_of_chain {a b c : Nat} (h1 : a ≤ b) (h2 : b + 1 ≤ c) : a < c :=
  Nat.lt_of_le_of_lt h1 (Nat.lt_of_lt_of_le (Nat.lt_succ_self b) h2)

mutual
def expression (minPrec : Nat) (p depth reused : Nat) : Parsed p :=
  let r := operand p depth reused
  match r.node with
  | none => ⟨none, r.pos, r.reused, r.le⟩
  | some left =>
    let c := climb minPrec left r.pos depth r.reused
    ⟨c.node, c.pos, c.reused, le_of_chain r.le c.le⟩
termination_by budget I p 3
decreasing_by
  · exact budget_lt_rank I (Nat.le_refl p) (by decide)
  · exact budget_lt_rank I r.le (by decide)

def climb (minPrec : Nat) (left : Node) (p depth reused : Nat) : Parsed p :=
  let q := skipBlank I p
  let c := peek I q
  let prec := (precedence c).1
  if hq : prec == 0 || prec < minPrec || I.src.size ≤ q then ⟨some left, p, reused, Nat.le_refl p⟩
  else
    have hlt : q < I.src.size := by
      simp only [Bool.or_eq_true, decide_eq_true_eq, not_or] at hq
      exact Nat.lt_of_not_le hq.2
    have hpq : p ≤ q := le_skipBlank I p
    let op := Node.token c q
    let q2 := skipBlank I (q + 1)
    have h2 : q + 1 ≤ q2 := le_skipBlank I (q + 1)
    have hp2 : p < q2 := lt_of_chain hpq h2
    let next := if (precedence c).2 then prec else prec + 1
    let r := expression next q2 depth reused
    have hpr : p < r.pos := Nat.lt_of_lt_of_le hp2 r.le
    match r.node with
    | none =>
      let rhs := Node.absent .number 0 r.pos
      let bin := ((((Node.leaf .binary left.start (max rhs.stop op.stop)).push .left left).push
        .operator op).push .right rhs)
      ⟨some (wrap I bin), r.pos, r.reused, Nat.le_of_lt hpr⟩
    | some rhs =>
      let bin := ((((Node.leaf .binary left.start (max rhs.stop op.stop)).push .left left).push
        .operator op).push .right rhs)
      let c2 := climb minPrec (wrap I bin) r.pos depth r.reused
      ⟨c2.node, c2.pos, c2.reused, le_of_chain (Nat.le_of_lt hpr) c2.le⟩
termination_by budget I p 1
decreasing_by
  · exact budget_lt_step I hp2 (Nat.lt_of_le_of_lt hpq hlt) (by decide)
  · exact budget_lt_step I hpr (Nat.lt_of_le_of_lt hpq hlt) (by decide)

def operand (p depth reused : Nat) : Parsed p :=
  let q := skipBlank I p
  have hpq : p ≤ q := le_skipBlank I p
  match I.reuse.get? (q : Int) with
  | some n =>
    -- a node that fits ends past the cursor on every tree a caller can hold
    if fits I q depth n then
      ⟨some n, max q n.stop.toNat, reused + 1, le_of_chain hpq (Nat.le_max_left _ _)⟩
    else fresh q depth reused hpq
  | none => fresh q depth reused hpq
termination_by budget I p 2
decreasing_by
  · exact budget_lt_rank I hpq (by decide)
  · exact budget_lt_rank I hpq (by decide)

def fresh (q depth reused : Nat) {p : Nat} (hpq : p ≤ q) : Parsed p :=
  let c := peek I q
  if c == 40 && decide (q < I.src.size) then
    let r := parenthesized q depth reused
    ⟨r.node, r.pos, r.reused, le_of_chain hpq r.le⟩
  else if isDigit c || c == 46 || c == 45 then
    let lit := scanNumber I q
    if he : lit.2 ≤ q then ⟨none, q, reused, hpq⟩
    else ⟨some (wrap I (Node.leaf lit.1 q lit.2)), lit.2,
      reused, le_of_chain hpq (Nat.le_of_lt (Nat.lt_of_not_le he))⟩
  else ⟨none, q, reused, hpq⟩
termination_by budget I q 1
decreasing_by exact budget_lt_rank I (Nat.le_refl q) (by decide)

def parenthesized (q depth reused : Nat) : Parsed q :=
  if depth ≥ I.maxDepth then
    ⟨some (errorToEnd I q), max q I.src.size, reused, Nat.le_max_left _ _⟩
  else if hq : q < I.src.size then
    let openTok := Node.token 40 q
    let q1 := skipBlank I (q + 1)
    have h1 : q + 1 ≤ q1 := le_skipBlank I (q + 1)
    have hq1 : q < q1 := Nat.lt_of_lt_of_le (Nat.lt_succ_self q) h1
    if peek I q1 == 41 && decide (q1 < I.src.size) then
      let closeTok := Node.token 41 q1
      let err := ((Node.leaf .error q (q1 + 1)).push .none openTok).push .none closeTok
      ⟨some err, q1 + 1, reused, Nat.le_of_lt (Nat.lt_of_lt_of_le hq1 (Nat.le_succ q1))⟩
    else
      let r := expression 1 q1 (depth + 1) reused
      let inner := r.node.getD (Node.absent .number 0 r.pos)
      let q2 := skipBlank I r.pos
      have hq2 : q ≤ q2 :=
        Nat.le_of_lt (Nat.lt_of_lt_of_le hq1 (le_of_chain r.le (le_skipBlank I r.pos)))
      let closed := peek I q2 == 41 && decide (q2 < I.src.size)
      let closeTok := if closed then Node.token 41 q2
        else Node.absent .punctuation 41 (max inner.stop openTok.stop)
      let paren := (((Node.leaf .parenthesized q (max closeTok.stop inner.stop)).push .none
        openTok).push .inner inner).push .none closeTok
      ⟨some (wrap I paren), if closed then q2 + 1 else q2, r.reused, by
        split
        · exact Nat.le_succ_of_le hq2
        · exact hq2⟩
  else ⟨none, q, reused, Nat.le_refl q⟩
termination_by budget I q 0
decreasing_by exact budget_lt_step I hq1 hq (by decide)
end

def source : Tree :=
  let n := I.src.size
  let root := Node.leaf .source 0 n
  let p := skipBlank I 0
  if n ≤ p then { root := some root, length := n }
  else
    let r := expression I 1 p 0 0
    let root := match r.node with
      | some e => root.push .none e
      | none => root
    let q := skipBlank I r.pos
    let root := if q < n then root.push .none (errorToEnd I q) else root
    { root := some root, length := n, reused := r.reused }

end Parser

def parse (limits : Limits) (src : ByteArray) (old : Option Tree) : Except ParseFault Tree :=
  if src.size > limits.maxInput then .error .tooLarge
  else
    let reuse := match old with
      | some t => if t.length == src.size then t.reusable else {}
      | none => {}
    .ok (Parser.source { src, reuse, maxDepth := limits.maxDepth })

def sexpOfText (src : ByteArray) : String :=
  match parse {} src none with
  | .ok t => Node.sexpOf t.root
  | .error f => "(ERROR " ++ Quote.text f.message ++ ")"

end LiveArith.Syntax
