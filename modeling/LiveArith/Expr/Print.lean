import LiveArith.Expr.Basic
import LiveArith.Number.Layout

/-!
The canonical text of an expression: single spaces around operators, parentheses where the tree
needs them (a binary operation binding looser than its parent, or as tightly on the parent's right),
explicit parentheses kept.
-/

set_option autoImplicit false

namespace LiveArith

def Int64.text (i : Int64) : String := toString i.toInt

def floatLiteral (x : Float) : String :=
  match Binary64.shape x with
  | .finite _ _ _ =>
    let s := Layout.fixed x
    if s.contains '.' then s else s ++ ".0"
  | _ => Layout.general x

namespace Expr

def textIn : Expr → Nat → Bool → String
  | .hole, _, _ => "<nil>"
  | .int _ v, _, _ => Int64.text v
  | .float _ v, _, _ => floatLiteral (Float.ofBits v)
  | .paren _ e, _, _ => "(" ++ textIn e 0 false ++ ")"
  | .binary _ l op r, parent, right =>
    let p := op.precedence
    let body := textIn l p false ++ " " ++ op.symbol ++ " " ++ textIn r p true
    if p < parent || (right && p == parent) then "(" ++ body ++ ")" else body

def text (e : Expr) : String := textIn e 0 false

end Expr

end LiveArith
