import LiveArith.Expr.Basic
import LiveArith.Number.Layout
import LiveArith.Json.Doc

/-!
Results of evaluation: a 64-bit integer or a double. A float's text always shows a point or an
exponent (`8.0`, `1e+06`), so it cannot be read as an integer. Two floats are equal when they are
the same number, both not-a-number, or within a relative `1e-12` of each other.
-/

set_option autoImplicit false

namespace LiveArith

/-- A computed value. -/
inductive Value where
  | integer (i : Int64)
  | float (x : Float)
deriving Inhabited

namespace Value

def type : Value → Ty
  | .integer _ => .integer
  | .float _ => .float

def isFloat (v : Value) : Bool := v.type == .float

def toFloat : Value → Float
  | .integer i => i.toFloat
  | .float x => x

def epsilon : Float := 1e-12

def equal : Value → Value → Bool
  | .integer a, .integer b => a == b
  | .float a, .float b =>
    if a == b then true
    else if a.isNaN || b.isNaN then a.isNaN && b.isNaN
    else if a.isInf || b.isInf then false
    else
      let scale := max 1 (max a.abs b.abs)
      (a - b).abs ≤ epsilon * scale
  | _, _ => false

def text : Value → String
  | .integer i => toString i.toInt
  | .float x =>
    let s := Layout.short x
    match Binary64.shape x with
    | .finite _ _ _ => if s.contains '.' || s.contains 'e' then s else s ++ ".0"
    | _ => s

def constructorText (v : Value) : String :=
  match v with
  | .integer _ => "Integer(" ++ v.text ++ ")"
  | .float _ => "Float(" ++ v.text ++ ")"

def toDoc (v : Value) : Doc :=
  match v with
  | .float x => if x.isNaN || x.isInf then .str v.text else .num v.text
  | .integer _ => .num v.text

end Value

end LiveArith
