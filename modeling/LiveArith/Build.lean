import LiveArith.Syntax.Node
import LiveArith.Diagnostic
import LiveArith.Expr.Basic
import LiveArith.Number.FloatSyntax

/-!
Building an expression from a checked syntax tree. A literal's text must read as a 64-bit integer or
a double; an operator must be one of `+ - * /`.
-/

set_option autoImplicit false
set_option linter.unusedVariables false

namespace LiveArith.Build

open Syntax

def operatorHint : String := "only +, -, *, and / operators are supported"

def spanOf (n : Node) : Span := ⟨n.start, n.width⟩

def fail (src : ByteArray) (kind : ErrorKind) (n : Node) (detail : String) : Diagnostic :=
  Diagnostic.spanning kind src n.start n.stop detail

def node (src : ByteArray) : Node → Except Diagnostic Expr
  | ⟨h, cs⟩ =>
    let n : Node := ⟨h, cs⟩
    match h.kind with
    | .expression =>
      match cs.attach.find? (fun c => c.1.named) with
      | some ⟨c, hc⟩ => node src c
      | none => .error (fail src .parse n "empty expression node")
    | .number =>
      if h.missing then .error (fail src .parse n "missing number")
      else
        let text := Utf8.toText (n.content src)
        match IntSyntax.readInt64 text with
        | .ok v => .ok (.int (spanOf n) v)
        | .error f =>
          .error { fail src .number n "failed to parse integer" with
                   cause := some (.number f),
                   hint := "integers must fit in 64 bits; write a float such as " ++ text ++ ".0" }
    | .float =>
      let text := Utf8.toText (n.content src)
      match FloatSyntax.readBits text with
      | .ok v => .ok (.float (spanOf n) v)
      | .error (f, _) =>
        .error { fail src .number n "failed to parse float" with cause := some (.number f) }
    | .binary =>
      match cs.attach.find? (fun c => c.1.field == .left) with
      | none => .error (fail src .parse n "missing left operand")
      | some ⟨l, hl⟩ =>
        if l.missing then .error (fail src .parse n "missing left operand")
        else
          match cs.find? (·.field == .operator) with
          | none => .error (fail src .parse n "missing operator")
          | some tok =>
            if tok.missing then .error (fail src .parse n "missing operator")
            else
              match cs.attach.find? (fun c => c.1.field == .right) with
              | none => .error (fail src .parse n "missing right operand")
              | some ⟨r, hr⟩ =>
                if r.missing then .error (fail src .parse n "missing right operand")
                else do
                  let le ← node src l
                  match Op.ofSymbol? tok.type with
                  | none =>
                    .error { fail src .invalidOperator tok
                               ("unsupported operator '" ++ tok.type ++ "'") with
                             hint := operatorHint }
                  | some op =>
                    let re ← node src r
                    .ok (.binary (spanOf n) le op re)
    | .parenthesized =>
      match cs.attach.find? (fun c => c.1.field == .inner) with
      | none => .error (fail src .parse n "empty parentheses")
      | some ⟨i, hi⟩ =>
        if i.missing then .error (fail src .parse n "empty parentheses")
        else do
          let ie ← node src i
          .ok (.paren (spanOf n) ie)
    | _ => .error (fail src .parse n ("unexpected node type '" ++ n.type ++ "'"))
termination_by n => sizeOf n
decreasing_by
  all_goals simp_wf
  all_goals first
    | exact Nat.lt_of_lt_of_le (List.sizeOf_lt_of_mem hc) (by omega)
    | exact Nat.lt_of_lt_of_le (List.sizeOf_lt_of_mem hl) (by omega)
    | exact Nat.lt_of_lt_of_le (List.sizeOf_lt_of_mem hr) (by omega)
    | exact Nat.lt_of_lt_of_le (List.sizeOf_lt_of_mem hi) (by omega)

def tree (root : Option Node) (src : ByteArray) : Except Diagnostic Expr :=
  match root with
  | none => .error (Diagnostic.spanning .parse src 0 src.size "empty expression")
  | some r =>
    if r.kind == .source then
      match r.namedChildren with
      | c :: _ => node src c
      | [] => .error (Diagnostic.spanning .parse src 0 src.size "empty expression")
    else node src r

end LiveArith.Build
