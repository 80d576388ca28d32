import LiveArith.Expr.Basic
import LiveArith.Hash.Xxh3

/-!
The structural hash of an expression: XXH3 of a tagged pre-order encoding. An integer is tag 0 and
its eight little-endian bytes, a float tag 1 and the eight bytes of its bits, a binary operation tag
2 and its operator code, a parenthesis tag 3; holes add nothing.
-/

set_option autoImplicit false

namespace LiveArith.Expr

def wordBytes (x : UInt64) : List UInt8 :=
  (List.range 8).map fun k => (x >>> (8 * k).toUInt64).toUInt8

def encode : Expr → List UInt8
  | .hole => []
  | .int _ v => 0 :: wordBytes v.toUInt64
  | .float _ v => 1 :: wordBytes v
  | .binary _ l op r => 2 :: op.code.toUInt8 :: (encode l ++ encode r)
  | .paren _ e => 3 :: encode e

def hash (e : Expr) : UInt64 := Xxh3.hashList e.encode

end LiveArith.Expr
