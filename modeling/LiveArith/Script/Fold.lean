import LiveArith.Script.Check
import LiveArith.Number.Power

/-!
Folding of constants, after the check and before running.
-/

set_option autoImplicit false

namespace LiveArith.Script

def Node.at (n : Node) (p : Nat) : Node :=
  match n with
  | .nil _ => .nil p
  | .bool _ b => .bool p b
  | .int _ v => .int p v
  | .float _ v => .float p v
  | .str _ s => .str p s
  | .ident _ s => .ident p s
  | .array _ xs => .array p xs
  | .map _ ps => .map p ps
  | .member _ a k o => .member p a k o
  | .slice _ a lo hi => .slice p a lo hi
  | .unary _ op a => .unary p op a
  | .binary _ op a b => .binary p op a b
  | .builtin _ f xs => .builtin p f xs
  | .call _ c xs => .call p c xs
  | .cond _ c a b => .cond p c a b
  | .seq _ xs => .seq p xs
  | .bind _ s v b => .bind p s v b

def Node.floatLit? : Node → Option Float
  | .int _ v => some v.toFloat
  | .float _ v => some v
  | _ => none

def Node.boolLit? : Node → Option Bool
  | .bool _ b => some b
  | _ => none

def foldPrefix (pos : Nat) (op : String) (a : Node) : Option Node :=
  match op, a with
  | "-", .int _ v => some (.int pos (-v))
  | "-", .float _ v => some (.float pos (-v))
  | "+", .int _ v => some (.int pos v)
  | "+", .float _ v => some (.float pos v)
  | "!", .bool _ b | "not", .bool _ b => some (.bool pos !b)
  | _, _ => none

def floatArith (op : String) (x y : Float) : Option Float :=
  match op with
  | "+" => some (x + y)
  | "-" => some (x - y)
  | "*" => some (x * y)
  | "/" => some (x / y)
  | "**" | "^" => some (Power.pow x y)
  | _ => none

def foldInfix (pos : Nat) (op : String) (l r : Node) : Option (Except Failure Node) :=
  match op, l, r with
  | "+", .int _ a, .int _ b => some (.ok (.int pos (a + b)))
  | "-", .int _ a, .int _ b => some (.ok (.int pos (a - b)))
  | "*", .int _ a, .int _ b => some (.ok (.int pos (a * b)))
  | "%", .int _ a, .int _ b =>
    if b == 0 then some (.error ⟨"integer divide by zero", pos⟩) else some (.ok (.int pos (a % b)))
  | "+", .str _ a, .str _ b => some (.ok (.str pos (a ++ b)))
  | "==", .int _ a, .int _ b => some (.ok (.bool pos (a == b)))
  | "==", .float _ a, .float _ b => some (.ok (.bool pos (a == b)))
  | "==", .str _ a, .str _ b => some (.ok (.bool pos (a == b)))
  | "==", .bool _ a, .bool _ b => some (.ok (.bool pos (a == b)))
  | "and", _, _ | "&&", _, _ =>
    match l.boolLit?, r.boolLit? with
    | some true, _ => some (.ok (r.at pos))
    | _, some true => some (.ok (l.at pos))
    | some false, _ | _, some false => some (.ok (.bool pos false))
    | _, _ => none
  | "or", _, _ | "||", _, _ =>
    match l.boolLit?, r.boolLit? with
    | some false, _ => some (.ok (r.at pos))
    | _, some false => some (.ok (l.at pos))
    | some true, _ | _, some true => some (.ok (.bool pos true))
    | _, _ => none
  | _, _, _ =>
    match l.floatLit?, r.floatLit? with
    | some x, some y => (floatArith op x y).map fun z => .ok (.float pos z)
    | _, _ => none

def later (a b : Option Failure) : Option Failure := b.orElse fun _ => a

mutual

def foldNode : Nat → Node → Node × Option Failure
  | 0, n => (n, none)
  | fuel + 1, node =>
    match node with
    | .array p xs => let (ys, e) := foldAll fuel xs; (.array p ys, e)
    | .map p ps => let (qs, e) := foldPairs fuel ps; (.map p qs, e)
    | .member p a k o =>
      let (a, e1) := foldNode fuel a
      let (k, e2) := foldNode fuel k
      (.member p a k o, later e1 e2)
    | .slice p a lo hi =>
      let (a, e1) := foldNode fuel a
      let (lo, e2) := foldOpt fuel lo
      let (hi, e3) := foldOpt fuel hi
      (.slice p a lo hi, later (later e1 e2) e3)
    | .unary p op a =>
      let (a, e) := foldNode fuel a
      ((foldPrefix p op a).getD (.unary p op a), e)
    | .binary p op l r =>
      let (l, e1) := foldNode fuel l
      let (r, e2) := foldNode fuel r
      let e := later e1 e2
      match foldInfix p op l r with
      | some (.ok n) => (n, e)
      | some (.error f) => (.binary p op l r, later e (some f))
      | none => (.binary p op l r, e)
    | .builtin p f xs => let (ys, e) := foldAll fuel xs; (.builtin p f ys, e)
    | .call p c xs =>
      let (c, e1) := foldNode fuel c
      let (ys, e2) := foldAll fuel xs
      (.call p c ys, later e1 e2)
    | .cond p c a b =>
      let (c, e1) := foldNode fuel c
      let (a, e2) := foldNode fuel a
      let (b, e3) := foldNode fuel b
      (.cond p c a b, later (later e1 e2) e3)
    | .seq p xs => let (ys, e) := foldAll fuel xs; (.seq p ys, e)
    | .bind p s v b =>
      let (v, e1) := foldNode fuel v
      let (b, e2) := foldNode fuel b
      (.bind p s v b, later e1 e2)
    | n => (n, none)

def foldAll : Nat → List Node → List Node × Option Failure
  | 0, xs => (xs, none)
  | _, [] => ([], none)
  | fuel + 1, x :: xs =>
    let (y, e1) := foldNode fuel x
    let (ys, e2) := foldAll fuel xs
    (y :: ys, later e1 e2)

def foldPairs : Nat → List (Node × Node) → List (Node × Node) × Option Failure
  | 0, ps => (ps, none)
  | _, [] => ([], none)
  | fuel + 1, (k, v) :: ps =>
    let (k, e1) := foldNode fuel k
    let (v, e2) := foldNode fuel v
    let (qs, e3) := foldPairs fuel ps
    ((k, v) :: qs, later (later e1 e2) e3)

def foldOpt : Nat → Option Node → Option Node × Option Failure
  | 0, o => (o, none)
  | _, none => (none, none)
  | fuel + 1, some n => let (m, e) := foldNode fuel n; (some m, e)

end

def fold (n : Node) : Except Failure Node :=
  match foldNode (2 * n.depth + 2) n with
  | (m, none) => .ok m
  | (_, some f) => .error f

end LiveArith.Script
