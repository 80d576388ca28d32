/-!
Grammar symbols of the concrete syntax tree and the roles a child plays in its parent. Kinds up to
`parenthesized` and `error` are named rules; operators and punctuation are anonymous tokens that
carry their one-byte text.
-/

set_option autoImplicit false

namespace LiveArith.Syntax

/-- The grammar symbol of a node. -/
inductive Kind where
  | source
  | expression
  | number
  | float
  | binary
  | parenthesized
  | error
  | operator
  | punctuation
deriving Repr, Inhabited, BEq, DecidableEq

namespace Kind

def code : Kind → Nat
  | .source => 0
  | .expression => 1
  | .number => 2
  | .float => 3
  | .binary => 4
  | .parenthesized => 5
  | .error => 6
  | .operator => 7
  | .punctuation => 8

def all : List Kind :=
  [.source, .expression, .number, .float, .binary, .parenthesized, .error, .operator,
   .punctuation]

def name : Kind → String
  | .source => "source"
  | .expression => "expression"
  | .number => "number"
  | .float => "float"
  | .binary => "binary_expression"
  | .parenthesized => "parenthesized_expression"
  | .error => "ERROR"
  | .operator => "operator"
  | .punctuation => "punctuation"

def named (k : Kind) : Bool := k.code < 7

def ofCode? (n : Nat) : Option Kind := all.find? (·.code == n)

def ofName? (s : String) : Option Kind := all.find? (·.name == s)

def nameOfCode (n : Nat) : String :=
  match ofCode? n with
  | some k => k.name
  | none => "Kind(" ++ toString n ++ ")"

def namedCode (n : Nat) : Bool := n < 7

end Kind

/-- The role a child plays in its parent. -/
inductive Field where
  | none
  | left
  | operator
  | right
  | inner
deriving Repr, Inhabited, BEq, DecidableEq

namespace Field

def label : Field → String
  | .none => ""
  | .left => "left"
  | .operator => "operator"
  | .right => "right"
  | .inner => "inner"

def ofLabel? (s : String) : Option Field :=
  [Field.none, .left, .operator, .right, .inner].find? (·.label == s)

end Field

end LiveArith.Syntax
