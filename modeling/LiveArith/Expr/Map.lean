import LiveArith.Expr.Basic
import LiveArith.Value

/-!
An expression as a document of its attributes, for structured output: kind, span, type and value of
literals, operator name and operands of binary operations, the inner expression of parentheses. Keys
are in sorted order; a hole is `null`.
-/

set_option autoImplicit false

namespace LiveArith.Expr

def toMapWith (enc : Value → Doc) : Expr → Doc
  | .hole => .null
  | e =>
    let common := [("span", Doc.sorted [("offset", Doc.int e.span.offset),
                                        ("length", Doc.int e.span.length)]),
                   ("type", Doc.str e.type.name)]
    match e with
    | .int _ v => Doc.sorted (common ++ [("kind", .str "integer"), ("value", Doc.int v.toInt)])
    | .float _ v => Doc.sorted (common ++ [("kind", .str "float"), ("value", enc (Value.float (Float.ofBits v)))])
    | .binary _ l op r =>
      Doc.sorted (common ++ [("kind", .str "binary"), ("op", .str op.name),
        ("left", toMapWith enc l), ("right", toMapWith enc r)])
    | .paren _ i => Doc.sorted (common ++ [("kind", .str "paren"), ("inner", toMapWith enc i)])
    | .hole => .null

def toMap : Expr → Doc := toMapWith Value.toDoc

end LiveArith.Expr
