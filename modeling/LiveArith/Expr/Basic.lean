/-!
Expressions: integer and float literals, binary operations and explicit parentheses, each with the
source span it was built from. A hole stands for an absent expression. The type of an expression is
float when a float literal or a division takes part, else integer.
-/

set_option autoImplicit false

namespace LiveArith

/-- A byte range of source text. -/
structure Span where
  offset : Int := 0
  length : Int := 0
deriving Repr, Inhabited, BEq, DecidableEq

/-- Binary operators, with the codes of the four supported ones; any other code is kept as
an unknown operator. -/
inductive Op where
  | add
  | subtract
  | multiply
  | divide
  | unknown (code : Nat)
deriving Repr, Inhabited, BEq, DecidableEq

namespace Op

def code : Op → Nat
  | .add => 1
  | .subtract => 2
  | .multiply => 3
  | .divide => 4
  | .unknown n => n

def ofCode (n : Nat) : Op :=
  match n with
  | 1 => .add
  | 2 => .subtract
  | 3 => .multiply
  | 4 => .divide
  | n => .unknown n

def valid : Op → Bool
  | .unknown _ => false
  | _ => true

def symbol : Op → String
  | .add => "+"
  | .subtract => "-"
  | .multiply => "*"
  | .divide => "/"
  | .unknown n => "Op(" ++ toString n ++ ")"

def name : Op → String
  | .add => "add"
  | .subtract => "subtract"
  | .multiply => "multiply"
  | .divide => "divide"
  | .unknown n => "Op(" ++ toString n ++ ")"

def precedence : Op → Nat
  | .multiply | .divide => 2
  | _ => 1

def ofSymbol? (s : String) : Option Op :=
  [Op.add, .subtract, .multiply, .divide].find? (·.symbol == s)

end Op

/-- The result domain of an expression. -/
inductive Ty where
  | integer
  | float
deriving Repr, Inhabited, BEq, DecidableEq

namespace Ty

def name : Ty → String
  | .integer => "integer"
  | .float => "float"

def nameOfCode (n : Nat) : String :=
  if n == 0 then "integer" else if n == 1 then "float" else "Type(" ++ toString n ++ ")"

def promote (op : Op) (l r : Ty) : Ty :=
  if op == .divide || l == .float || r == .float then .float else .integer

end Ty

/-- An expression tree. -/
inductive Expr where
  | hole
  | int (span : Span) (value : Int64)
  | float (span : Span) (bits : UInt64)
  | binary (span : Span) (left : Expr) (op : Op) (right : Expr)
  | paren (span : Span) (inner : Expr)
deriving Inhabited

namespace Expr

def span : Expr → Span
  | .hole => {}
  | .int s _ | .float s _ | .binary s _ _ _ | .paren s _ => s

def type : Expr → Ty
  | .float _ _ => .float
  | .paren _ e => type e
  | .binary _ l op r => Ty.promote op (type l) (type r)
  | _ => .integer

def same : Expr → Expr → Bool
  | .hole, .hole => true
  | .int _ a, .int _ b => a == b
  | .float _ a, .float _ b => a == b
  | .binary _ l op r, .binary _ l' op' r' => op == op' && same l l' && same r r'
  | .paren _ a, .paren _ b => same a b
  | _, _ => false

def shapeNames : Expr → List String
  | .hole => []
  | .int _ _ => ["IntegerExpr"]
  | .float _ _ => ["FloatExpr"]
  | .binary _ l _ r => "BinaryExpr" :: (shapeNames l ++ shapeNames r)
  | .paren _ e => "ParenExpr" :: shapeNames e

end Expr

end LiveArith
