/-!
Syntax trees of the script language. Every node keeps the character offset it is reported at: a
literal or a name its first character, an operator its operator, an index its opening bracket, a
property access its property, a call its function name.
-/

set_option autoImplicit false

namespace LiveArith.Script

/-- An expression of the script language. -/
inductive Node where
  | nil (pos : Nat)
  | bool (pos : Nat) (b : Bool)
  | int (pos : Nat) (v : Int64)
  | float (pos : Nat) (v : Float)
  | str (pos : Nat) (s : String)
  | ident (pos : Nat) (name : String)
  | array (pos : Nat) (items : List Node)
  | map (pos : Nat) (pairs : List (Node × Node))
  | member (pos : Nat) (base key : Node) (optional : Bool)
  | slice (pos : Nat) (base : Node) (lo hi : Option Node)
  | unary (pos : Nat) (op : String) (arg : Node)
  | binary (pos : Nat) (op : String) (l r : Node)
  | builtin (pos : Nat) (name : String) (args : List Node)
  | call (pos : Nat) (callee : Node) (args : List Node)
  | cond (pos : Nat) (c a b : Node)
  | seq (pos : Nat) (items : List Node)
  | bind (pos : Nat) (name : String) (value body : Node)
deriving Inhabited

def Node.pos : Node → Nat
  | .nil p | .bool p _ | .int p _ | .float p _ | .str p _ | .ident p _ | .array p _
  | .map p _ | .member p _ _ _ | .slice p _ _ _ | .unary p _ _ | .binary p _ _ _
  | .builtin p _ _ | .call p _ _ | .cond p _ _ _ | .seq p _ | .bind p _ _ _ => p

end LiveArith.Script
